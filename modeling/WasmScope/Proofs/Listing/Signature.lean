import WasmScope.Proofs.Grammar.Types

namespace WasmScope

namespace ValType

variable {t t' : ValType}

def all : List ValType := [i32, i64, f32, f64, funcref, externref]

theorem mem_all (h : t.isValid = true) : t ∈ all := by
  have hw := written_of_isValid h
  generalize [t.tag] = bs at hw
  cases hw <;> decide

/-- No name of a type is the beginning of another one. -/
theorem eq_of_name_begins (h : t.isValid = true) (h' : t'.isValid = true)
    (hbegins : t.name.toList <+: t'.name.toList) : t = t' := by
  have hall : ∀ t ∈ all, ∀ t' ∈ all, t.name.toList <+: t'.name.toList → t = t' := by decide
  exact hall t (mem_all h) t' (mem_all h') hbegins

theorem name_inj (h : t.isValid = true) (h' : t'.isValid = true) (hname : t.name = t'.name) :
    t = t' :=
  eq_of_name_begins h h' (hname ▸ List.prefix_rfl)

theorem name_append_inj (h : t.isValid = true) (h' : t'.isValid = true) {r r' : List Char}
    (heq : t.name.toList ++ r = t'.name.toList ++ r') : t = t' ∧ r = r' := by
  have hbegins : t'.name.toList <+: t.name.toList ++ r := by
    rw [heq]
    exact List.prefix_append _ _
  obtain rfl : t = t' := by
    rcases List.prefix_or_prefix_of_prefix (List.prefix_append _ _) hbegins with hp | hp
    · exact eq_of_name_begins h h' hp
    · exact (eq_of_name_begins h' h hp).symm
  exact ⟨rfl, List.append_cancel_left heq⟩

theorem name_append_ne (h : t.isValid = true) {r r' : List Char} :
    ']' :: r ≠ t.name.toList ++ r' := by
  have hall : ∀ t ∈ all, t.name.toList ≠ [] ∧ ']' ∉ t.name.toList := by decide
  obtain ⟨hne, hbracket⟩ := hall t (mem_all h)
  intro heq
  rcases List.append_eq_cons_iff.1 heq.symm with ⟨hnil, -⟩ | ⟨rest, hname, -⟩
  · exact hne hnil
  · rw [hname] at hbracket
    exact hbracket List.mem_cons_self

theorem names_append_inj {ts ts' : List ValType} (h : ∀ t ∈ ts, t.isValid = true)
    (h' : ∀ t ∈ ts', t.isValid = true) {r r' : List Char}
    (heq : ts.flatMap (' ' :: ·.name.toList) ++ ']' :: r =
      ts'.flatMap (' ' :: ·.name.toList) ++ ']' :: r') : ts = ts' ∧ r = r' := by
  induction ts generalizing ts' with
  | nil =>
    cases ts' with
    | nil => exact ⟨rfl, (List.cons.inj heq).2⟩
    | cons => cases heq
  | cons t ts ih =>
    cases ts' with
    | nil => cases heq
    | cons t' ts' =>
      obtain ⟨ht, hts⟩ := List.forall_mem_cons.1 h
      obtain ⟨ht', hts'⟩ := List.forall_mem_cons.1 h'
      simp only [List.flatMap_cons, List.cons_append, List.append_assoc, List.cons.injEq,
        true_and] at heq
      obtain ⟨rfl, hrest⟩ := name_append_inj ht ht' heq
      obtain ⟨rfl, rfl⟩ := ih hts hts' hrest
      exact ⟨rfl, rfl⟩

theorem joined_names (t : ValType) (ts : List ValType) :
    [' '].intercalate ((t :: ts).map (·.name.toList)) =
      t.name.toList ++ ts.flatMap (' ' :: ·.name.toList) := by
  induction ts generalizing t with
  | nil => simp
  | cons next ts ih =>
    have hrest := ih next
    rw [List.map_cons] at hrest
    rw [List.map_cons, List.map_cons, List.intercalate_cons_cons, hrest, List.append_assoc]
    rfl

theorem listText_cons (t : ValType) (ts : List ValType) :
    (listText (t :: ts)).toList =
      '[' :: (t.name.toList ++ (ts.flatMap (' ' :: ·.name.toList) ++ [']'])) := by
  rw [listText, String.toList_append, String.toList_append, String.toList_intercalate,
    List.map_map]
  change '[' :: ([' '].intercalate ((t :: ts).map (·.name.toList)) ++ [']']) = _
  rw [joined_names, List.append_assoc]

theorem listText_append_inj {ts ts' : List ValType} (h : ∀ t ∈ ts, t.isValid = true)
    (h' : ∀ t ∈ ts', t.isValid = true) {r r' : List Char}
    (heq : (listText ts).toList ++ r = (listText ts').toList ++ r') : ts = ts' ∧ r = r' := by
  cases ts with
  | nil =>
    cases ts' with
    | nil => exact ⟨rfl, List.append_cancel_left heq⟩
    | cons t' ts' =>
      rw [listText_cons, List.cons_append, List.append_assoc] at heq
      exact absurd (List.cons.inj heq).2 (name_append_ne (h' t' List.mem_cons_self))
  | cons t ts =>
    cases ts' with
    | nil =>
      rw [listText_cons, List.cons_append, List.append_assoc] at heq
      exact absurd (List.cons.inj heq).2.symm (name_append_ne (h t List.mem_cons_self))
    | cons t' ts' =>
      obtain ⟨ht, hts⟩ := List.forall_mem_cons.1 h
      obtain ⟨ht', hts'⟩ := List.forall_mem_cons.1 h'
      simp only [listText_cons, List.cons_append, List.append_assoc, List.nil_append,
        List.cons.injEq, true_and] at heq
      obtain ⟨rfl, hrest⟩ := name_append_inj ht ht' heq
      obtain ⟨rfl, rfl⟩ := names_append_inj hts hts' hrest
      exact ⟨rfl, rfl⟩

end ValType

theorem FuncType.text_inj {t t' : FuncType} (h : ∀ v ∈ t.params ++ t.results, v.isValid = true)
    (h' : ∀ v ∈ t'.params ++ t'.results, v.isValid = true) (htext : t.text = t'.text) :
    t = t' := by
  obtain ⟨params, results⟩ := t
  obtain ⟨params', results'⟩ := t'
  obtain ⟨hp, hr⟩ := List.forall_mem_append.1 h
  obtain ⟨hp', hr'⟩ := List.forall_mem_append.1 h'
  have hchars := congrArg String.toList htext
  simp only [text, String.toList_append, List.append_assoc] at hchars
  obtain ⟨rfl, hrest⟩ := ValType.listText_append_inj hp hp' hchars
  have hend := congrArg (· ++ []) (List.append_cancel_left hrest)
  obtain ⟨rfl, -⟩ := ValType.listText_append_inj hr hr' hend
  rfl

end WasmScope
