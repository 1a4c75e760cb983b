import WasmScope.Binary.Advance

namespace WasmScope

/-- Which byte strings stand for which values. -/
abbrev Format (α : Type) := List UInt8 → α → Prop

namespace Cursor

/-- The bytes between two cursors of one region. -/
structure Spans (c : Cursor) (bs : List UInt8) (rest : Cursor) : Prop where
  unread : c.unread = bs ++ rest.unread
  position : rest.position = c.position + bs.length

theorem spans_nil {c rest : Cursor} : c.Spans [] rest ↔ rest = c := by
  constructor
  · intro h
    obtain ⟨hu, hp⟩ := h
    cases c
    cases rest
    simp_all
  · rintro rfl
    exact ⟨rfl, rfl⟩

theorem Spans.append {c mid rest : Cursor} {bs bs' : List UInt8} (h : c.Spans bs mid)
    (h' : mid.Spans bs' rest) : c.Spans (bs ++ bs') rest := by
  constructor
  · rw [h.unread, h'.unread, List.append_assoc]
  · rw [h'.position, h.position, List.length_append, Nat.add_assoc]

theorem Spans.split {c rest : Cursor} {bs bs' : List UInt8} (h : c.Spans (bs ++ bs') rest) :
    ∃ mid, c.Spans bs mid ∧ mid.Spans bs' rest := by
  refine ⟨⟨c.position + bs.length, bs' ++ rest.unread⟩, ⟨?_, rfl⟩, ⟨rfl, ?_⟩⟩
  · rw [h.unread, List.append_assoc]
  · rw [h.position, List.length_append, Nat.add_assoc]

theorem spans_front (position : Nat) (bs rest : List UInt8) :
    Spans ⟨position, bs ++ rest⟩ bs ⟨position + bs.length, rest⟩ := ⟨rfl, rfl⟩

theorem Spans.unique {c rest rest' : Cursor} {bs : List UInt8} (h : c.Spans bs rest)
    (h' : c.Spans bs rest') : rest = rest' := by
  have hu : rest.unread = rest'.unread :=
    List.append_cancel_left (h.unread.symm.trans h'.unread)
  have hp : rest.position = rest'.position := h.position.trans h'.position.symm
  cases rest
  cases rest'
  simp_all

end Cursor

namespace Format

variable {α β : Type}

def Then (F : Format α) (G : α → Format β) : Format β := fun bs y =>
  ∃ x front back, F front x ∧ G x back y ∧ bs = front ++ back

inductive Many (F : Format α) : Format (List α)
  | nil : Many F [] []
  | cons {front back : List UInt8} {x : α} {xs : List α} (head : F front x)
      (tail : Many F back xs) : Many F (front ++ back) (x :: xs)

/-- Strings one after another, each of the format that belongs to its position. -/
inductive Sequence (F : Nat → Format α) : Nat → Format (List α)
  | nil {start : Nat} : Sequence F start [] []
  | cons {start : Nat} {front back : List UInt8} {x : α} {xs : List α} (head : F start front x)
      (tail : Sequence F (start + front.length) back xs) :
      Sequence F start (front ++ back) (x :: xs)

theorem Many.part {F : Format α} {bs : List UInt8} {xs : List α} (h : F.Many bs xs) {x : α}
    (hx : x ∈ xs) : ∃ part, part <:+: bs ∧ F part x := by
  induction h with
  | nil => cases hx
  | cons head tail ih =>
    cases hx with
    | head => exact ⟨_, (List.prefix_append _ _).isInfix, head⟩
    | tail _ hx =>
      obtain ⟨part, hpart, hw⟩ := ih hx
      exact ⟨part, hpart.trans (List.suffix_append _ _).isInfix, hw⟩

theorem Many.forall {F : Format α} {bs : List UInt8} {xs : List α} {P : α → Prop}
    (h : F.Many bs xs) (hp : ∀ {bs x}, F bs x → P x) : ∀ x ∈ xs, P x := by
  intro x hx
  obtain ⟨part, -, hw⟩ := h.part hx
  exact hp hw

theorem Sequence.forall {F : Nat → Format α} {start : Nat} {bs : List UInt8} {xs : List α}
    {P : α → Prop} (h : Sequence F start bs xs) (hp : ∀ {start bs x}, F start bs x → P x) :
    ∀ x ∈ xs, P x := by
  induction h with
  | nil => exact nofun
  | cons head tail ih => exact List.forall_mem_cons.2 ⟨hp head, ih⟩

/-- Where values tell the ends of their strings, each begins where the one before it ends. -/
theorem Sequence.tiles {F : Nat → Format α} {start : Nat} {bs : List UInt8} {xs : List α}
    {first last : α → Nat} (h : Sequence F start bs xs)
    (hF : ∀ {start bs x}, F start bs x → first x = start ∧ last x = start + bs.length) :
    start :: xs.map last = xs.map first ++ [start + bs.length] := by
  induction h with
  | nil => rfl
  | cons head tail ih =>
    obtain ⟨hfirst, hlast⟩ := hF head
    rw [List.map_cons, List.map_cons, hfirst, hlast, ih, List.length_append, Nat.add_assoc]
    rfl

theorem Sequence.split {F : Nat → Format α} {start j : Nat} {bs : List UInt8} {xs : List α}
    (h : Sequence F start bs xs) (hj : j < bs.length) :
    ∃ before x after front part back, xs = before ++ x :: after ∧ bs = front ++ (part ++ back) ∧
      Sequence F start front before ∧ F (start + front.length) part x ∧
      Sequence F (start + front.length + part.length) back after ∧
      front.length ≤ j ∧ j < front.length + part.length := by
  induction h generalizing j with
  | nil => cases hj
  | @cons start part back x xs head tail ih =>
    by_cases hin : j < part.length
    · have hlt : j < ([] : List UInt8).length + part.length := by simpa using hin
      exact ⟨[], x, xs, [], part, back, rfl, rfl, .nil, head, tail, Nat.zero_le j, hlt⟩
    · rw [List.length_append] at hj
      obtain ⟨before, y, after, front, part', back, rfl, rfl, hfront, hpart, hback, hle, hlt⟩ :=
        ih (j := j - part.length) (by omega)
      have hlength : start + (part ++ front).length = start + part.length + front.length := by
        rw [List.length_append, Nat.add_assoc]
      refine ⟨x :: before, y, after, part ++ front, part', back, rfl, by simp, .cons head hfront,
        ?_, ?_, ?_, ?_⟩
      · rwa [hlength]
      · rwa [hlength]
      · rw [List.length_append]
        omega
      · rw [List.length_append]
        omega

theorem sequence_iff {F : Nat → Format α} {G : Nat → Format β} {f : α → β} {P : α → Prop}
    (h : ∀ start bs y, G start bs y ↔ ∃ x, F start bs x ∧ f x = y ∧ P x) {start : Nat}
    {bs : List UInt8} {ys : List β} :
    Sequence G start bs ys ↔ ∃ xs, Sequence F start bs xs ∧ xs.map f = ys ∧ ∀ x ∈ xs, P x := by
  constructor
  · intro hs
    induction hs with
    | nil => exact ⟨[], .nil, rfl, nofun⟩
    | cons head tail ih =>
      obtain ⟨x, hx, rfl, hp⟩ := (h _ _ _).1 head
      obtain ⟨xs, hxs, rfl, hps⟩ := ih
      exact ⟨x :: xs, .cons hx hxs, rfl, List.forall_mem_cons.2 ⟨hp, hps⟩⟩
  · intro hw
    obtain ⟨xs, hxs, rfl, hps⟩ := hw
    induction hxs with
    | nil => exact .nil
    | cons head tail ih =>
      obtain ⟨hp, hps⟩ := List.forall_mem_cons.1 hps
      exact .cons ((h _ _ _).2 ⟨_, head, rfl, hp⟩) (ih hps)

theorem many_iff_sequence {F : Format α} (start : Nat) {bs : List UInt8} {xs : List α} :
    F.Many bs xs ↔ Sequence (fun _ => F) start bs xs := by
  constructor
  · intro h
    induction h generalizing start with
    | nil => exact .nil
    | cons head tail ih => exact .cons head (ih _)
  · intro h
    induction h with
    | nil => exact .nil
    | cons head tail ih => exact .cons head ih

end Format

namespace Reader

variable {ε α β : Type}

/-- Success takes exactly the strings of the format off the front of the input. -/
def Reads (r : StateT Cursor (Except ε) α) (F : Format α) : Prop :=
  ∀ c x rest, r c = .ok (x, rest) ↔ ∃ bs, F bs x ∧ c.Spans bs rest

theorem Reads.congr {r : StateT Cursor (Except ε) α} {F G : Format α} (h : Reads r F)
    (hFG : ∀ bs x, F bs x ↔ G bs x) : Reads r G := by
  intro c x rest
  rw [h c x rest]
  simp only [hFG]

/-- A format that some reader reads gives one value to each string, and no string of it begins
another one. -/
theorem Reads.unambiguous {r : StateT Cursor (Except ε) α} {F : Format α} (h : Reads r F)
    {bs bs' more more' : List UInt8} {x y : α} (hx : F bs x) (hy : F bs' y)
    (he : bs ++ more = bs' ++ more') : x = y ∧ bs = bs' := by
  have h1 := (h ⟨0, bs ++ more⟩ x _).2 ⟨bs, hx, Cursor.spans_front 0 bs more⟩
  have h2 := (h ⟨0, bs ++ more⟩ y _).2 ⟨bs', hy, he ▸ Cursor.spans_front 0 bs' more'⟩
  rw [h1, Except.ok.injEq, Prod.mk.injEq, Cursor.mk.injEq] at h2
  obtain ⟨hxy, -, hmore⟩ := h2
  rw [hmore] at he
  exact ⟨hxy, List.append_cancel_right he⟩

theorem reads_pure (x : α) :
    Reads (pure x : StateT Cursor (Except ε) α) fun bs y => bs = [] ∧ y = x := by
  intro c y rest
  constructor
  · intro h
    cases h
    exact ⟨[], ⟨rfl, rfl⟩, Cursor.spans_nil.2 rfl⟩
  · intro hw
    obtain ⟨bs, ⟨rfl, rfl⟩, hs⟩ := hw
    rw [Cursor.spans_nil] at hs
    subst hs
    rfl

theorem reads_fail (d : Defect) : Reads (fail d : Reader α) fun _ _ => False := by
  intro c y rest
  simp [fail]

theorem Reads.bind {r : StateT Cursor (Except ε) α} {f : α → StateT Cursor (Except ε) β}
    {F : Format α} {G : α → Format β} (h : Reads r F) (hf : ∀ x, Reads (f x) (G x)) :
    Reads (r >>= f) (F.Then G) := by
  intro c y rest
  rw [bind_eq_ok]
  constructor
  · intro hw
    obtain ⟨x, mid, hx, hy⟩ := hw
    obtain ⟨front, hF, hfront⟩ := (h c x mid).1 hx
    obtain ⟨back, hG, hback⟩ := (hf x mid y rest).1 hy
    exact ⟨front ++ back, ⟨x, front, back, hF, hG, rfl⟩, hfront.append hback⟩
  · intro hw
    obtain ⟨bs, ⟨x, front, back, hF, hG, rfl⟩, hs⟩ := hw
    obtain ⟨mid, hfront, hback⟩ := hs.split
    exact ⟨x, mid, (h c x mid).2 ⟨front, hF, hfront⟩, (hf x mid y rest).2 ⟨back, hG, hback⟩⟩

theorem Reads.bind_pure {r : StateT Cursor (Except ε) α} {F : Format α} (h : Reads r F)
    (f : α → β) : Reads (r >>= fun x => pure (f x)) fun bs y => ∃ x, F bs x ∧ y = f x := by
  apply (h.bind fun x => reads_pure (f x)).congr
  intro bs y
  constructor
  · intro hw
    obtain ⟨x, front, back, hF, ⟨rfl, rfl⟩, rfl⟩ := hw
    exact ⟨x, by rwa [List.append_nil], rfl⟩
  · intro hw
    obtain ⟨x, hF, rfl⟩ := hw
    exact ⟨x, bs, [], hF, ⟨rfl, rfl⟩, (List.append_nil bs).symm⟩

theorem Reads.map {r : StateT Cursor (Except ε) α} {F : Format α} (h : Reads r F) (f : α → β) :
    Reads (f <$> r) fun bs y => ∃ x, F bs x ∧ y = f x := by
  rw [map_eq_pure_bind]
  exact h.bind_pure f

theorem reads_guard (p : Prop) [Decidable p] {r : Reader α} {F : Format α} {d : Defect}
    (h : p → Reads r F) : Reads (if p then r else fail d) fun bs x => p ∧ F bs x := by
  split
  · next hp =>
    apply (h hp).congr
    intro bs x
    exact (and_iff_right hp).symm
  · next hp =>
    apply (reads_fail d).congr
    intro bs x
    exact (iff_of_false id fun hx => hp hx.1)

theorem reads_position_bind {f : Nat → Reader β} {G : Format β} (hf : ∀ n, Reads (f n) G) :
    Reads (position >>= f) G := by
  intro c y rest
  rw [bind_eq_ok]
  constructor
  · intro h
    obtain ⟨n, mid, hn, hy⟩ := h
    cases hn
    exact (hf _ _ _ _).1 hy
  · intro hs
    exact ⟨c.position, c, rfl, (hf _ _ _ _).2 hs⟩

theorem reads_byte : Reads byte fun bs b => bs = [b] := by
  intro c b rest
  obtain ⟨position, unread⟩ := c
  cases unread with
  | nil =>
    constructor
    · intro h
      cases h
    · intro hw
      obtain ⟨bs, rfl, hs⟩ := hw
      cases hs.unread
  | cons head tail =>
    constructor
    · intro h
      cases h
      exact ⟨[b], rfl, rfl, rfl⟩
    · intro hw
      obtain ⟨bs, rfl, hs⟩ := hw
      obtain ⟨rfl, rfl⟩ := List.cons.inj hs.unread
      exact congrArg (fun rest => Except.ok (head, rest))
        ((Cursor.spans_front position [head] rest.unread).unique hs)

theorem reads_byte_bind {f : UInt8 → Reader β} {G : UInt8 → Format β}
    (hf : ∀ b, Reads (f b) (G b)) :
    Reads (byte >>= f) fun bs y => ∃ b back, bs = b :: back ∧ G b back y := by
  apply (reads_byte.bind hf).congr
  intro bs y
  constructor
  · intro h
    obtain ⟨b, front, back, rfl, hG, rfl⟩ := h
    exact ⟨b, back, rfl, hG⟩
  · intro h
    obtain ⟨b, back, rfl, hG⟩ := h
    exact ⟨b, [b], back, rfl, hG, rfl⟩

theorem reads_bytes (n : Nat) : Reads (bytes n) fun bs x => x = bs ∧ bs.length = n := by
  intro c x rest
  unfold bytes
  simp only [Int.toNat_natCast, holds_eq_true, Int.natCast_nonneg, true_and]
  split
  · next h =>
    constructor
    · intro hr
      cases hr
      refine ⟨c.unread.take n, ⟨rfl, by simp [h]⟩, ⟨by simp, ?_⟩⟩
      simp [h]
    · intro hw
      obtain ⟨bs, ⟨rfl, rfl⟩, hs⟩ := hw
      have hx : c.unread.take x.length = x := by simp [hs.unread]
      have hadv : c.Spans x (c.advance x.length) := ⟨by simp [hs.unread], rfl⟩
      rw [hx, hadv.unique hs]
  · next h =>
    constructor
    · intro hr
      cases hr
    · intro hw
      obtain ⟨bs, ⟨rfl, rfl⟩, hs⟩ := hw
      exact absurd (by simp [hs.unread]) h

theorem bytes_eq_ok_iff {n : Int} {c rest : Cursor} {bs : List UInt8} :
    bytes n c = .ok (bs, rest) ↔ (bs.length : Int) = n ∧ c.Spans bs rest := by
  by_cases hn : 0 ≤ n
  · obtain ⟨k, rfl⟩ := Int.eq_ofNat_of_zero_le hn
    rw [reads_bytes k c bs rest, Int.natCast_inj]
    constructor
    · intro h
      obtain ⟨bs, ⟨rfl, hlength⟩, hs⟩ := h
      exact ⟨hlength, hs⟩
    · intro h
      exact ⟨bs, ⟨rfl, h.1⟩, h.2⟩
  · constructor
    · intro h
      rw [bytes, if_neg fun hfits => hn hfits.1] at h
      cases h
    · intro h
      omega

theorem region_eq_ok_iff {n : Int} {c region rest : Cursor} :
    Reader.region n c = .ok (region, rest) ↔
      ∃ bs, (bs.length : Int) = n ∧ region = ⟨c.position, bs⟩ ∧ c.Spans bs rest := by
  constructor
  · intro h
    unfold Reader.region at h
    split at h
    · cases h
    · next bs rest' hbytes =>
      cases h
      obtain ⟨hlength, hs⟩ := bytes_eq_ok_iff.1 hbytes
      exact ⟨bs, hlength, rfl, hs⟩
  · intro h
    obtain ⟨bs, hlength, rfl, hs⟩ := h
    rw [Reader.region, bytes_eq_ok_iff.2 ⟨hlength, hs⟩]

theorem reads_repeated {step : Nat → StateT Cursor (Except ε) α} {F : Format α}
    (h : ∀ i, Reads (step i) F) (n i : Nat) (done : List α) :
    Reads (repeated step n i done)
      fun bs xs => ∃ new, F.Many bs new ∧ new.length = n ∧ xs = done.reverse ++ new := by
  induction n generalizing i done with
  | zero =>
    apply (reads_pure done.reverse).congr
    intro bs xs
    constructor
    · intro hw
      obtain ⟨rfl, rfl⟩ := hw
      exact ⟨[], .nil, rfl, (List.append_nil _).symm⟩
    · intro hw
      obtain ⟨new, hm, hlen, rfl⟩ := hw
      cases hm with
      | nil => exact ⟨rfl, List.append_nil _⟩
      | cons => cases hlen
  | succ n ih =>
    apply ((h i).bind fun x => ih (i + 1) (x :: done)).congr
    intro bs xs
    constructor
    · intro hw
      obtain ⟨x, front, back, hx, ⟨new, hm, rfl, rfl⟩, rfl⟩ := hw
      exact ⟨x :: new, .cons hx hm, rfl, by simp⟩
    · intro hw
      obtain ⟨new, hm, hlen, rfl⟩ := hw
      cases hm with
      | nil => cases hlen
      | @cons front back x new head tail =>
        exact ⟨x, front, back, head, ⟨new, tail, by simpa using hlen, by simp⟩, rfl⟩

end Reader

end WasmScope
