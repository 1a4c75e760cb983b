import WasmScope.Text.Lines
import WasmScope.Text.Quoted

namespace WasmScope.Text

def Printable (s : String) : Prop := ∀ c ∈ s.toList, isPrintable c = true

instance (s : String) : Decidable (Printable s) :=
  List.decidableBAll (fun c => isPrintable c = true) s.toList

theorem isPrintable_break : isPrintable '\n' = false := by decide +kernel

theorem isPrintable_escape : isPrintable '\x1b' = false := by decide +kernel

@[simp] theorem printable_append {s t : String} :
    Printable (s ++ t) ↔ Printable s ∧ Printable t := by
  simp only [Printable, String.toList_append, List.mem_append, or_imp, forall_and]

@[simp] theorem printable_join {ss : List String} :
    Printable (String.join ss) ↔ ∀ s ∈ ss, Printable s := by
  simp only [Printable, String.toList_join, List.mem_flatMap]
  constructor
  · intro h s hs c hc
    exact h c ⟨s, hs, hc⟩
  · rintro h c ⟨s, hs, hc⟩
    exact h s hs c hc

@[simp] theorem printable_ofList {cs : List Char} :
    Printable (String.ofList cs) ↔ ∀ c ∈ cs, isPrintable c = true := by
  rw [Printable, String.toList_ofList]

theorem printable_fill {c : Char} (h : isPrintable c = true) (n : Nat) : Printable (fill c n) := by
  rw [fill, printable_ofList]
  intro d hd
  rwa [List.eq_of_mem_replicate hd]

theorem Printable.notMem {s : String} (h : Printable s) {c : Char} (hc : isPrintable c = false) :
    c ∉ s.toList := by
  intro hmem
  rw [h c hmem] at hc
  cases hc

theorem isPrintable_digitChar (n : Nat) : isPrintable (Nat.digitChar n) = true := by
  by_cases h : n < 16
  · exact (by decide : ∀ n < 16, isPrintable (Nat.digitChar n) = true) n h
  · rw [Nat.digitChar_eq_star.2 (Nat.le_of_not_lt h)]
    decide

theorem isPrintable_toDigits {base : Nat} (h : 1 < base) (n : Nat) :
    ∀ c ∈ Nat.toDigits base n, isPrintable c = true := by
  induction n using Nat.strongRecOn with
  | _ n ih =>
    intro c hc
    rw [Nat.toDigits_eq_if h] at hc
    split at hc
    · rw [List.mem_singleton.1 hc]
      exact isPrintable_digitChar n
    · next hle =>
      rcases List.mem_append.1 hc with hc | hc
      · exact ih _ (Nat.div_lt_self (by omega) h) c hc
      · rw [List.mem_singleton.1 hc]
        exact isPrintable_digitChar _

@[simp] theorem printable_repr (n : Nat) : Printable n.repr := by
  rw [Nat.repr_eq_ofList_toDigits, printable_ofList]
  exact isPrintable_toDigits (by decide) n

@[simp] theorem printable_intRepr (n : Int) : Printable n.repr := by
  rw [Int.repr_eq_if]
  split
  · exact printable_repr _
  · exact printable_append.2 ⟨by decide, printable_repr _⟩

theorem printable_codePoint (width : Nat) (c : Char) : Printable (codePoint width c) := by
  rw [codePoint, zeroFilled, hexNat, printable_append, printable_ofList]
  exact ⟨printable_fill (by decide) _, isPrintable_toDigits (by decide) _⟩

theorem printable_escape (c : Char) : Printable (escape c) := by
  unfold escape
  split
  case h_8 =>
    -- the escapes by code point; the others are fixed texts
    have hcode (mark : String) (width : Nat) (h : Printable mark) :
        Printable (mark ++ codePoint width c) :=
      printable_append.2 ⟨h, printable_codePoint width c⟩
    split
    · exact hcode _ _ (by decide)
    · split
      · exact hcode _ _ (by decide)
      · exact hcode _ _ (by decide)
  all_goals decide

theorem printable_quotedChar {quote : Char} (h : isPrintable quote = true) (c : Char) :
    Printable (quotedChar quote c) := by
  unfold quotedChar
  split
  · next hc =>
    have hprint : isPrintable c = true := by
      rcases Bool.or_eq_true_iff.1 hc with hc | hc
      · rwa [eq_of_beq hc]
      · rw [eq_of_beq hc]
        decide
    simp only [printable_ofList, List.mem_cons, List.not_mem_nil, or_false]
    rintro d (rfl | rfl)
    · decide
    · exact hprint
  · split
    · next hprint =>
      intro d hd
      rw [Char.toString, String.toList_singleton, List.mem_singleton] at hd
      rwa [hd]
    · exact printable_escape c

theorem printable_quoted (s : String) : Printable (quoted s) := by
  rw [quoted, printable_append, printable_append, printable_join]
  refine ⟨⟨by decide, ?_⟩, by decide⟩
  intro t ht
  obtain ⟨c, -, rfl⟩ := List.mem_map.1 ht
  exact printable_quotedChar (by decide) c

/-- Blocks that are each closed by a separator are found again by splitting at it. -/
theorem splitOn_closed {α : Type} [BEq α] [LawfulBEq α] {separator : α} {blocks : List (List α)}
    (h : ∀ block ∈ blocks, separator ∉ block) :
    (blocks.flatMap (· ++ [separator])).splitOn separator = blocks ++ [[]] := by
  induction blocks with
  | nil => rfl
  | cons block blocks ih =>
    rw [List.flatMap_cons, List.append_assoc, List.singleton_append,
      List.splitOn_append_cons_self_of_not_mem (h block List.mem_cons_self),
      ih fun b hb => h b (List.mem_cons_of_mem _ hb), List.cons_append]

theorem intercalate_splitLines (s : String) : "\n".intercalate (splitLines s) = s := by
  apply String.toList_injective
  have hbreak : "\n".toList = ['\n'] := rfl
  have hlists : (splitLines s).map String.toList = s.toList.splitOn '\n' := by
    rw [splitLines, List.map_map]
    simp [Function.comp_def]
  rw [String.toList_intercalate, hbreak, hlists, List.intercalate_splitOn]

def closedLines (s : String) : List String := (splitLines s).dropLast

theorem splitLines_join {lines : List String} (h : ∀ line ∈ lines, '\n' ∉ line.toList) :
    splitLines (String.join (lines.map (· ++ "\n"))) = lines ++ [""] := by
  have hlist : (String.join (lines.map (· ++ "\n"))).toList =
      (lines.map String.toList).flatMap (· ++ ['\n']) := by
    simp [String.toList_join, List.flatMap_map]
  rw [splitLines, hlist, splitOn_closed]
  · simp
  · intro line hline
    obtain ⟨s, hs, rfl⟩ := List.mem_map.1 hline
    exact h s hs

theorem closedLines_join {lines : List String} (h : ∀ line ∈ lines, '\n' ∉ line.toList) :
    closedLines (String.join (lines.map (· ++ "\n"))) = lines := by
  rw [closedLines, splitLines_join h, List.dropLast_concat]

theorem filter_splitLines_chomp (s : String) :
    (splitLines (chomp s)).filter (· ≠ "") = (splitLines s).filter (· ≠ "") := by
  rw [chomp]
  split
  · next h =>
    obtain ⟨front, hfront⟩ := List.getLast?_eq_some_iff.1 h
    have hsplit : splitLines s = splitLines (String.ofList s.toList.dropLast) ++ [""] := by
      rw [splitLines, splitLines, String.toList_ofList, hfront, List.dropLast_concat,
        List.splitOn_append_cons_self, List.map_append]
      rfl
    rw [hsplit, List.filter_append]
    simp
  · rfl

end WasmScope.Text
