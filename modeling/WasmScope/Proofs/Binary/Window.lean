import WasmScope.Binary.Window
import WasmScope.Proofs.Binary.Locate
import WasmScope.Proofs.Grammar.Types

namespace WasmScope

namespace Window

variable {w : Window}

def cursor (w : Window) : Cursor := ⟨w.position, w.unread⟩

theorem skip_skip (w : Window) (j k : Nat) : (w.skip j).skip k = w.skip (j + k) := by
  simp [skip, Nat.add_assoc]

@[simp] theorem unread_skip (w : Window) (k : Nat) : (w.skip k).unread = w.unread.drop k := by
  simp [skip, unread, List.drop_drop]

@[simp] theorem cursor_skip (w : Window) (k : Nat) : (w.skip k).cursor = w.cursor.advance k := by
  simp [cursor, Cursor.advance, position, skip, Nat.add_assoc, unread, List.drop_drop]

theorem length_unread (w : Window) : w.unread.length = w.remaining := List.length_drop

theorem offset_add_le (hw : w.offset ≤ w.data.length) {bs : List UInt8} (hbs : bs <+: w.unread) :
    w.offset + bs.length ≤ w.data.length := by
  have hlength := hbs.length_le
  rw [unread, List.length_drop] at hlength
  omega

theorem underrun_cursor (w : Window) (want : Int) : w.cursor.underrun want = w.underrun want := by
  rw [Cursor.underrun, underrun, cursor, length_unread]

end Window

namespace WindowReader

section Run

variable {α β ε ε' : Type} {r : EStateM ε Window α} {f : α → EStateM ε Window β} {x : α} {e : ε}
  {w w' : Window}

theorem bind_of_ok (h : r w = .ok x w') : (r >>= f) w = f x w' := by
  change EStateM.bind r f w = _
  rw [EStateM.bind, h]

theorem bind_of_error (h : r w = .error e w') : (r >>= f) w = .error e w' := by
  change EStateM.bind r f w = _
  rw [EStateM.bind, h]

theorem adapt_of_ok (h : r w = .ok x w') (g : ε → ε') :
    EStateM.adaptExcept g r w = .ok x w' := by
  rw [EStateM.adaptExcept, h]

theorem adapt_of_error (h : r w = .error e w') (g : ε → ε') :
    EStateM.adaptExcept g r w = .error (g e) w' := by
  rw [EStateM.adaptExcept, h]

theorem orBackTo_of_ok (h : r w = .ok x w') (start : Nat) : orBackTo start r w = .ok x w' := by
  rw [orBackTo, h]

theorem orBackTo_of_error (h : r w = .error e w') (start : Nat) :
    orBackTo start r w = .error e { w' with offset := start } := by
  rw [orBackTo, h]

end Run

variable {α β : Type} {w : Window}

/-- The read does what the reader does from there. Where it fails, it may have moved on. -/
structure Follows (r : WindowReader α) (r' : Reader α) : Prop where
  ok {w : Window} {x : α} {c : Cursor} : r' w.cursor = .ok (x, c) →
    ∃ k, k ≤ w.unread.length ∧ c = w.cursor.advance k ∧ r w = .ok x (w.skip k)
  error {w : Window} {d : Defect} : r' w.cursor = .error d →
    ∃ o, r w = .error d { w with offset := o }

/-- The read does what the reader does from there. Where it fails, the window is as it was. -/
structure Agrees (r : WindowReader α) (r' : Reader α) : Prop where
  ok {w : Window} {x : α} {c : Cursor} : r' w.cursor = .ok (x, c) →
    ∃ k, k ≤ w.unread.length ∧ c = w.cursor.advance k ∧ r w = .ok x (w.skip k)
  error {w : Window} {d : Defect} : r' w.cursor = .error d → r w = .error d w

theorem Agrees.follows {r : WindowReader α} {r' : Reader α} (h : Agrees r r') : Follows r r' :=
  ⟨h.ok, fun hr => ⟨_, h.error hr⟩⟩

theorem Agrees.adapt_id {r : WindowReader α} {r' : Reader α} (h : Agrees r r') :
    Agrees (EStateM.adaptExcept id r) r' := by
  constructor
  · intro w x c hr
    obtain ⟨k, hk, hc, hw⟩ := h.ok hr
    exact ⟨k, hk, hc, adapt_of_ok hw id⟩
  · intro w d hr
    exact adapt_of_error (h.error hr) id

theorem agrees_pure (x : α) : Agrees (pure x) (pure x) := by
  constructor
  · intro w y c hr
    cases hr
    exact ⟨0, Nat.zero_le _, rfl, rfl⟩
  · intro w d hr
    cases hr

theorem agrees_throw (d : Defect) : Agrees (throw d : WindowReader α) (Reader.fail d) := by
  constructor
  · intro w y c hr
    cases hr
  · intro w d' hr
    cases hr
    rfl

theorem agrees_position : Agrees position Reader.position := by
  constructor
  · intro w n c hr
    cases hr
    exact ⟨0, Nat.zero_le _, rfl, rfl⟩
  · intro w d hr
    cases hr

theorem Follows.bind {r : WindowReader α} {r' : Reader α} {f : α → WindowReader β}
    {f' : α → Reader β} (h : Follows r r') (hf : ∀ x, Follows (f x) (f' x)) :
    Follows (r >>= f) (r' >>= f') := by
  constructor
  · intro w y c hr
    obtain ⟨x, mid, hx, hy⟩ := Reader.bind_eq_ok.1 hr
    obtain ⟨j, hj, rfl, hfirst⟩ := h.ok hx
    rw [← Window.cursor_skip] at hy
    obtain ⟨k, hk, rfl, hsecond⟩ := (hf x).ok hy
    rw [Window.unread_skip, List.length_drop] at hk
    refine ⟨j + k, by omega, ?_, ?_⟩
    · rw [Window.cursor_skip, Cursor.advance_advance]
    · rw [bind_of_ok hfirst, hsecond, Window.skip_skip]
  · intro w d hr
    rcases Reader.bind_eq_error.1 hr with hr | ⟨x, mid, hx, hy⟩
    · obtain ⟨o, ho⟩ := h.error hr
      exact ⟨o, bind_of_error ho⟩
    · obtain ⟨j, hj, rfl, hr⟩ := h.ok hx
      rw [← Window.cursor_skip] at hy
      obtain ⟨o, ho⟩ := (hf x).error hy
      exact ⟨o, (bind_of_ok hr).trans ho⟩

theorem follows_repeated {r : WindowReader α} {r' : Reader α} (h : Follows r r') (n i : Nat)
    (done : List α) :
    Follows (Reader.repeated (fun _ => r) n i done) (Reader.repeated (fun _ => r') n i done) := by
  induction n generalizing i done with
  | zero => exact (agrees_pure _).follows
  | succ n ih => exact h.bind fun x => ih (i + 1) (x :: done)

theorem Follows.orBackTo {r : WindowReader α} {r' : Reader α} (h : Follows r r') (start : Nat) :
    Follows (WindowReader.orBackTo start r) r' := by
  constructor
  · intro w x c hr
    obtain ⟨k, hk, hc, hw⟩ := h.ok hr
    exact ⟨k, hk, hc, orBackTo_of_ok hw start⟩
  · intro w d hr
    obtain ⟨o, ho⟩ := h.error hr
    exact ⟨start, orBackTo_of_error ho start⟩

/-- What follows a read may fail half way, if the window then goes back in front of both. -/
theorem Agrees.rewound {r : WindowReader α} {r' : Reader α} {f : α → WindowReader β}
    {f' : α → Reader β} (h : Agrees r r') (hf : ∀ x, Follows (f x) (f' x)) :
    Agrees (offset >>= fun start => r >>= fun x => orBackTo start (f x)) (r' >>= f') := by
  have hstart (w : Window) : (offset >>= fun start => r >>= fun x => orBackTo start (f x)) w =
      (r >>= fun x => orBackTo w.offset (f x)) w := bind_of_ok rfl
  constructor
  · intro w y c hr
    rw [hstart]
    exact (h.follows.bind fun x => (hf x).orBackTo w.offset).ok hr
  · intro w d hr
    rw [hstart]
    rcases Reader.bind_eq_error.1 hr with hr | ⟨x, mid, hx, hy⟩
    · exact bind_of_error (h.error hr)
    · obtain ⟨j, hj, rfl, hfirst⟩ := h.ok hx
      rw [← Window.cursor_skip] at hy
      obtain ⟨o, ho⟩ := (hf x).error hy
      rw [bind_of_ok hfirst]
      exact orBackTo_of_error ho w.offset

theorem Agrees.map {r : WindowReader α} {r' : Reader α} (h : Agrees r r') (f : α → β) :
    Agrees (f <$> r) (f <$> r') := by
  rw [map_eq_pure_bind, map_eq_pure_bind]
  constructor
  · exact (h.follows.bind fun x => (agrees_pure (f x)).follows).ok
  · intro w d hr
    rcases Reader.bind_eq_error.1 hr with hr | ⟨x, mid, hx, hy⟩
    · exact bind_of_error (h.error hr)
    · cases hy

theorem agrees_byte : Agrees byte Reader.byte := by
  constructor
  · intro w b c hr
    unfold Reader.byte at hr
    split at hr
    · cases hr
    · next rest hunread =>
      cases hr
      have hw : w.unread = b :: rest := hunread
      refine ⟨1, by simp [hw], by simp [Cursor.advance, hunread], ?_⟩
      rw [byte, hw]
  · intro w d hr
    unfold Reader.byte at hr
    split at hr
    · next hunread =>
      cases hr
      have hw : w.unread = [] := hunread
      rw [byte, hw, Window.underrun_cursor]
    · cases hr

theorem agrees_bytes (n : Int) : Agrees (bytes n) (Reader.bytes n) := by
  have hfits (w : Window) : (0 ≤ n ∧ holds n.toNat w.cursor.unread = true) ↔
      ¬ (n < 0 ∨ (w.remaining : Int) < n) := by
    rw [holds_eq_true, Window.cursor, Window.length_unread]
    omega
  constructor
  · intro w x c hr
    unfold Reader.bytes at hr
    split at hr
    · next h =>
      cases hr
      exact ⟨n.toNat, holds_eq_true.1 h.2, rfl, if_neg ((hfits w).1 h)⟩
    · cases hr
  · intro w d hr
    unfold Reader.bytes at hr
    split at hr
    · cases hr
    · next h =>
      cases hr
      have hshort := not_not.1 (mt (hfits w).2 h)
      rw [Window.underrun_cursor]
      exact if_pos hshort

def opened (c : Cursor) : Window := .openAt c.position c.unread

theorem agrees_region (n : Int) : Agrees (region n) (opened <$> Reader.region n) := by
  have hregion (w : Window) :
      region n w = (bytes n >>= fun data => pure (.openAt w.position data)) w := bind_of_ok rfl
  constructor
  · intro w x c hr
    rw [map_eq_pure_bind] at hr
    obtain ⟨inner, rest, hinner, hr⟩ := Reader.bind_eq_ok.1 hr
    cases hr
    unfold Reader.region at hinner
    split at hinner
    · cases hinner
    · next data rest hbytes =>
      cases hinner
      obtain ⟨k, hk, hc, hw⟩ := (agrees_bytes n).ok hbytes
      refine ⟨k, hk, hc, ?_⟩
      rw [hregion, bind_of_ok hw]
      rfl
  · intro w d hr
    rw [map_eq_pure_bind] at hr
    rcases Reader.bind_eq_error.1 hr with hr | ⟨inner, rest, -, hr⟩
    · unfold Reader.region at hr
      split at hr
      · next hbytes =>
        cases hr
        rw [hregion, bind_of_error ((agrees_bytes n).error hbytes)]
      · cases hr
    · cases hr

theorem byte_eq_ok {b : UInt8} {after : Window} (h : byte w = .ok b after) :
    w.unread = b :: after.unread ∧ after = w.skip 1 := by
  unfold byte at h
  split at h
  · cases h
  · next hunread =>
    cases h
    exact ⟨by simp [hunread], rfl⟩

/-- The groups that are read byte by byte are those found in the unread bytes at once. -/
theorem groups_eq (value count : Nat) (w : Window) :
    groups value count w = match Leb128.scan value count w.unread with
      | some s => .ok s (w.skip (s.count - count))
      | none => .error ((w.skip w.unread.length).underrun 1) (w.skip w.unread.length) := by
  fun_induction groups value count w with
  | case1 value count w d after h =>
    unfold byte at h
    split at h
    · next hunread =>
      cases h
      rw [hunread]
      rfl
    · cases h
  | case2 value count w b after h value' hlast =>
    obtain ⟨hunread, rfl⟩ := byte_eq_ok h
    rw [hunread, Leb128.scan, if_pos hlast]
    simp [value']
  | case3 value count w b after h value' hmore _ ih =>
    obtain ⟨hunread, rfl⟩ := byte_eq_ok h
    rw [ih, hunread, Leb128.scan, if_neg hmore]
    cases hscan : Leb128.scan value' (count + 1) (w.skip 1).unread with
    | some s =>
      obtain ⟨hlt, -, -⟩ := Leb128.scan_rest hscan
      dsimp only
      rw [Window.skip_skip, show 1 + (s.count - (count + 1)) = s.count - count by omega]
    | none =>
      dsimp only
      rw [Window.skip_skip, List.length_cons, Nat.add_comm]

theorem agrees_leb128 (value : Leb128.Scan → α) :
    Agrees (leb128 value) (Reader.leb128 value) := by
  have hleb (w : Window) :
      leb128 value w = (orBackTo w.offset (groups 0 0) >>= fun s => pure (value s)) w :=
    bind_of_ok rfl
  constructor
  · intro w x c hr
    unfold Reader.leb128 at hr
    split at hr
    · cases hr
    · next s hscan =>
      cases hr
      obtain ⟨-, hle, hrest⟩ := Leb128.scan_rest hscan
      have hgroups : groups 0 0 w = .ok s (w.skip s.count) := by
        rw [groups_eq, show Leb128.scan 0 0 w.unread = some s from hscan]
        rfl
      refine ⟨s.count, hle, by rw [Cursor.advance, hrest]; rfl, ?_⟩
      rw [hleb, bind_of_ok (orBackTo_of_ok hgroups w.offset)]
      rfl
  · intro w d hr
    unfold Reader.leb128 at hr
    split at hr
    · next hscan =>
      cases hr
      have hgroups : groups 0 0 w =
          .error ((w.skip w.unread.length).underrun 1) (w.skip w.unread.length) := by
        rw [groups_eq, show Leb128.scan 0 0 w.unread = none from hscan]
      rw [hleb, bind_of_error (orBackTo_of_error hgroups w.offset), ← Window.underrun_cursor,
        Window.cursor_skip]
      rfl
    · cases hr

theorem agrees_u32 : Agrees u32 Reader.u32 := agrees_leb128 _

theorem agrees_s32 : Agrees s32 Reader.s32 := agrees_leb128 _

theorem agrees_name : Agrees name Reader.name := by
  apply agrees_u32.rewound
  intro length
  apply agrees_position.follows.bind
  intro position
  apply (agrees_bytes _).follows.bind
  intro data
  cases String.fromUTF8? data.toByteArray with
  | some s => exact (agrees_pure s).follows
  | none => exact (agrees_throw _).follows

theorem agrees_vector {r : WindowReader α} {r' : Reader α} (h : Agrees r r') :
    Agrees (vector id r) (Reader.vector r') :=
  agrees_u32.adapt_id.rewound fun count => follows_repeated h.follows count.toNat 0 []

end WindowReader

namespace Reader

variable {α β : Type} {c rest : Cursor}

theorem map_eq_ok {r : Reader α} {f : α → β} {y : β} :
    (f <$> r) c = .ok (y, rest) ↔ ∃ x, r c = .ok (x, rest) ∧ y = f x := by
  rw [map_eq_pure_bind, bind_eq_ok]
  constructor
  · intro h
    obtain ⟨x, mid, hx, hy⟩ := h
    cases hy
    exact ⟨x, hx, rfl⟩
  · intro h
    obtain ⟨x, hx, rfl⟩ := h
    exact ⟨x, rest, hx, rfl⟩

def ReadsAt (r : Reader α) (F : Nat → Format α) : Prop :=
  ∀ c x rest, r c = .ok (x, rest) ↔ ∃ bs, F c.position bs x ∧ c.Spans bs rest

theorem repeated_eq_ok_iff {element : Reader α} {F : Nat → Format α} (h : ReadsAt element F)
    {n i : Nat} {done xs : List α} :
    repeated (fun _ => element) n i done c = .ok (xs, rest) ↔
      ∃ bs new, Format.Sequence F c.position bs new ∧ new.length = n ∧ xs = done.reverse ++ new ∧
        c.Spans bs rest := by
  induction n generalizing c i done with
  | zero =>
    constructor
    · intro hr
      cases hr
      exact ⟨[], [], .nil, rfl, (List.append_nil _).symm, Cursor.spans_nil.2 rfl⟩
    · intro hr
      obtain ⟨bs, new, hnew, hlength, rfl, hs⟩ := hr
      cases hnew with
      | nil =>
        rw [Cursor.spans_nil.1 hs, List.append_nil]
        rfl
      | cons => cases hlength
  | succ n ih =>
    constructor
    · intro hr
      obtain ⟨x, mid, hx, hr⟩ := bind_eq_ok.1 hr
      obtain ⟨front, hfront, hs⟩ := (h _ _ _).1 hx
      obtain ⟨back, new, hnew, rfl, rfl, hs'⟩ := ih.1 hr
      rw [hs.position] at hnew
      exact ⟨front ++ back, x :: new, .cons hfront hnew, rfl, by simp, hs.append hs'⟩
    · intro hr
      obtain ⟨bs, new, hnew, hlength, rfl, hs⟩ := hr
      cases hnew with
      | nil => cases hlength
      | @cons _ front back x new hfront hnew =>
        obtain ⟨mid, hfirst, hrest⟩ := hs.split
        rw [← hfirst.position] at hnew
        refine bind_eq_ok.2 ⟨x, mid, (h _ _ _).2 ⟨front, hfront, hfirst⟩, ih.2 ?_⟩
        exact ⟨back, new, hnew, Nat.succ.inj hlength, by simp, hrest⟩

end Reader

theorem WindowReader.readsAt_opened (n : Int) :
    Reader.ReadsAt (opened <$> Reader.region n)
      fun start bs w => (bs.length : Int) = n ∧ w = .openAt start bs := by
  intro c w rest
  rw [Reader.map_eq_ok]
  constructor
  · intro h
    obtain ⟨inner, hinner, rfl⟩ := h
    obtain ⟨bs, hlength, rfl, hs⟩ := Reader.region_eq_ok_iff.1 hinner
    exact ⟨bs, ⟨hlength, rfl⟩, hs⟩
  · intro h
    obtain ⟨bs, ⟨hlength, rfl⟩, hs⟩ := h
    exact ⟨_, Reader.region_eq_ok_iff.2 ⟨bs, hlength, rfl, hs⟩, rfl⟩

namespace Item

def reader : Item → Reader Datum
  | byte => Datum.byte <$> Reader.byte
  | bytes count => Datum.bytes <$> Reader.bytes count
  | region count => Datum.region <$> WindowReader.opened <$> Reader.region count
  | u32 => Datum.u32 <$> Reader.u32
  | s32 => Datum.s32 <$> Reader.s32
  | name => Datum.name <$> Reader.name
  | vector element => Datum.list <$> Reader.vector element.reader

theorem agrees_read (item : Item) : WindowReader.Agrees item.read item.reader := by
  induction item with
  | byte => exact WindowReader.agrees_byte.map _
  | bytes count => exact (WindowReader.agrees_bytes count).map _
  | region count => exact (WindowReader.agrees_region count).map _
  | u32 => exact WindowReader.agrees_u32.map _
  | s32 => exact WindowReader.agrees_s32.map _
  | name => exact WindowReader.agrees_name.map _
  | vector element ih => exact (WindowReader.agrees_vector ih).map _

/-- The strings that stand for what a read gives, at a position of the input. -/
def Written : Item → Nat → Format Datum
  | byte, _ => fun bs x => ∃ b, bs = [b] ∧ x = .byte b
  | bytes count, _ => fun bs x => (bs.length : Int) = count ∧ x = .bytes bs
  | region count, start => fun bs x => (bs.length : Int) = count ∧ x = .region (.openAt start bs)
  | u32, _ => fun bs x => ∃ n, Leb128.Unsigned bs n ∧ x = .u32 n
  | s32, _ => fun bs x => ∃ n, Leb128.Signed bs n ∧ x = .s32 n
  | name, _ => fun bs x => ∃ s, Name.Written bs s ∧ x = .name s
  | vector element, start => fun bs x => ∃ front back n xs, bs = front ++ back ∧
      Leb128.Unsigned front n ∧ n.toNat = xs.length ∧
      Format.Sequence element.Written (start + front.length) back xs ∧ x = .list xs

theorem readsAt_reader (item : Item) : Reader.ReadsAt item.reader item.Written := by
  induction item with
  | byte => exact Reader.reads_byte.map _
  | bytes count =>
    intro c x rest
    rw [reader, Reader.map_eq_ok]
    constructor
    · intro h
      obtain ⟨bs, hbs, rfl⟩ := h
      obtain ⟨hlength, hs⟩ := Reader.bytes_eq_ok_iff.1 hbs
      exact ⟨bs, ⟨hlength, rfl⟩, hs⟩
    · intro h
      obtain ⟨bs, ⟨hlength, rfl⟩, hs⟩ := h
      exact ⟨bs, Reader.bytes_eq_ok_iff.2 ⟨hlength, hs⟩, rfl⟩
  | region count =>
    intro c x rest
    rw [reader, Reader.map_eq_ok]
    constructor
    · intro h
      obtain ⟨w, hw, rfl⟩ := h
      obtain ⟨bs, ⟨hlength, rfl⟩, hs⟩ := (WindowReader.readsAt_opened count _ _ _).1 hw
      exact ⟨bs, ⟨hlength, rfl⟩, hs⟩
    · intro h
      obtain ⟨bs, ⟨hlength, rfl⟩, hs⟩ := h
      exact ⟨_, (WindowReader.readsAt_opened count _ _ _).2 ⟨bs, ⟨hlength, rfl⟩, hs⟩, rfl⟩
  | u32 => exact Reader.reads_u32.map _
  | s32 => exact Reader.reads_s32.map _
  | name => exact Reader.reads_name.map _
  | vector element ih =>
    intro c x rest
    rw [reader, Reader.map_eq_ok]
    constructor
    · intro h
      obtain ⟨xs, hxs, rfl⟩ := h
      obtain ⟨n, mid, hn, hxs⟩ := Reader.bind_eq_ok.1 hxs
      obtain ⟨front, hfront, hs⟩ := (Reader.reads_u32 _ _ _).1 hn
      obtain ⟨back, new, hnew, hlength, hxs, hs'⟩ := (Reader.repeated_eq_ok_iff ih).1 hxs
      rw [hs.position] at hnew
      exact ⟨front ++ back, ⟨front, back, n, new, rfl, hfront, hlength.symm, hnew,
        congrArg Datum.list hxs⟩, hs.append hs'⟩
    · intro h
      obtain ⟨_, ⟨front, back, n, xs, rfl, hfront, hlength, hitems, rfl⟩, hs⟩ := h
      obtain ⟨mid, hcount, hrest⟩ := hs.split
      have hn := (Reader.reads_u32 _ _ _).2 ⟨front, hfront, hcount⟩
      rw [← hcount.position] at hitems
      refine ⟨xs, Reader.bind_eq_ok.2 ⟨n, mid, hn, (Reader.repeated_eq_ok_iff ih).2 ?_⟩, rfl⟩
      exact ⟨back, xs, hitems, hlength.symm, rfl, hrest⟩

end Item

namespace WindowReader

variable {α : Type} {r : WindowReader α} {r' : Reader α} {w w' : Window}

theorem Agrees.eq_ok_iff {F : Nat → Format α} {x : α} (h : Agrees r r')
    (hF : Reader.ReadsAt r' F) :
    r w = .ok x w' ↔ ∃ bs, F w.position bs x ∧ bs <+: w.unread ∧ w' = w.skip bs.length := by
  constructor
  · intro hr
    cases hcursor : r' w.cursor with
    | error d => cases hr.symm.trans (h.error hcursor)
    | ok p =>
      obtain ⟨y, c⟩ := p
      obtain ⟨k, -, hc, hw⟩ := h.ok hcursor
      cases hr.symm.trans hw
      obtain ⟨bs, hbs, hs⟩ := (hF _ _ _).1 hcursor
      -- the reader ends behind the string, and the window at the same place
      have hk : bs.length = k := by
        have hposition := hs.position
        rw [hc, Cursor.position_advance] at hposition
        omega
      exact ⟨bs, hbs, ⟨c.unread, hs.unread.symm⟩, by rw [hk]⟩
  · intro hr
    obtain ⟨bs, hbs, ⟨rest, hrest⟩, rfl⟩ := hr
    have hs : w.cursor.Spans bs ⟨w.position + bs.length, rest⟩ := ⟨hrest.symm, rfl⟩
    obtain ⟨k, -, hc, hw⟩ := h.ok ((hF _ _ _).2 ⟨bs, hbs, hs⟩)
    have hk : bs.length = k := by
      have hposition := congrArg Cursor.position hc
      exact Nat.add_left_cancel hposition
    rw [hw, hk]

theorem Agrees.eq_of_error {d : Defect} (h : Agrees r r') (hr : r w = .error d w') : w' = w := by
  cases hcursor : r' w.cursor with
  | error d' =>
    cases hr.symm.trans (h.error hcursor)
    rfl
  | ok p =>
    obtain ⟨k, -, -, hw⟩ := h.ok hcursor
    cases hr.symm.trans hw

theorem u32_eq_ok_iff {n : UInt32} :
    u32 w = .ok n w' ↔ ∃ bs, Leb128.Unsigned bs n ∧ bs <+: w.unread ∧ w' = w.skip bs.length :=
  agrees_u32.eq_ok_iff (F := fun _ => Leb128.Unsigned) fun _ => Reader.reads_u32 _

theorem s32_eq_ok_iff {n : Int32} :
    s32 w = .ok n w' ↔ ∃ bs, Leb128.Signed bs n ∧ bs <+: w.unread ∧ w' = w.skip bs.length :=
  agrees_s32.eq_ok_iff (F := fun _ => Leb128.Signed) fun _ => Reader.reads_s32 _

theorem region_eq_ok_iff {n : Int} {inner : Window} :
    region n w = .ok inner w' ↔ ∃ bs, ((bs.length : Int) = n ∧ inner = .openAt w.position bs) ∧
      bs <+: w.unread ∧ w' = w.skip bs.length :=
  (agrees_region n).eq_ok_iff (readsAt_opened n)

end WindowReader

theorem Item.read_eq_ok_iff {item : Item} {x : Datum} {w w' : Window} :
    item.read w = .ok x w' ↔
      ∃ bs, item.Written w.position bs x ∧ bs <+: w.unread ∧ w' = w.skip bs.length :=
  item.agrees_read.eq_ok_iff item.readsAt_reader

end WasmScope
