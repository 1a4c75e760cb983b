import WasmScope.Proofs.Decode.Layout
import WasmScope.Proofs.Grammar.Broken

namespace WasmScope

def BodyLayout.events (b : BodyLayout) (index : Nat) : List Event :=
  (if 0 < b.unread then [.trailingBytes index b.stop b.unread] else [])
  ++ [.body index b.body.size b.body.locals.length b.body.body.length]

def bodyEvents (index : Nat) (bodies : List BodyLayout) : List Event :=
  (bodies.zipIdx index).flatMap fun (b, i) => b.events i

def SectionRecord.events (r : SectionRecord) : List Event :=
  .sectionStart r.layout.content.id r.layout.start r.size :: bodyEvents 0 r.layout.bodies

/-- Bytes that begin with no section, and what the log says of them. Of a section that is not there
to its end it says nothing, nor of one whose id is not known; of one whose contents are broken it
says that it begins, and what bodies are whole. -/
inductive Section.Breaks (options : DecodeOptions) (start : Nat) :
    List UInt8 → List Event → Prop
  | frame {id : UInt8} {after : List UInt8} (cut : ¬ Format.Begins Sized after) :
      Breaks options start (id :: after) []
  | unknown {id : UInt8} {front content more : List UInt8} {n : UInt32}
      (size : Leb128.Unsigned front n) (extent : n.toNat = content.length)
      (unknown : ∀ s : Section, s.id ≠ ⟨id⟩) :
      Breaks options start (id :: (front ++ content ++ more)) []
  | content {id : SectionId} {front content more : List UInt8} {n : UInt32}
      {bodies : List BodyLayout} (size : Leb128.Unsigned front n)
      (extent : n.toNat = content.length)
      (broken : Broken options (start + 1 + front.length) id content bodies) :
      Breaks options start (id.byte :: (front ++ content ++ more))
        (.sectionStart id start n :: bodyEvents 0 bodies)

theorem bodyEvents_cons (index : Nat) (b : BodyLayout) (bodies : List BodyLayout) :
    bodyEvents index (b :: bodies) = b.events index ++ bodyEvents (index + 1) bodies := by
  simp [bodyEvents]

theorem Section.breaks_of_not_begins {options : DecodeOptions} {bs : List UInt8} (start : Nat)
    (hne : bs ≠ []) (h : ¬ Format.Begins (Written options) bs) :
    ∃ events, Breaks options start bs events := by
  obtain ⟨id, after, rfl⟩ := List.exists_cons_of_ne_nil hne
  by_cases hsized : Format.Begins Sized after
  · obtain ⟨⟨n, content⟩, _, more, ⟨size, extent⟩, rfl⟩ := hsized
    by_cases hid : ∃ s : Section, s.id = ⟨id⟩
    · obtain ⟨s, hs⟩ := hid
      have hbroken :
          ¬ Format.Begins (fun bs s' => s'.id = s.id ∧ Content options bs s') content := by
        intro hcontent
        obtain ⟨s', bs, trailing, ⟨hs', hwritten⟩, rfl⟩ := hcontent
        have hid : id = s'.id.byte := by rw [hs', hs]
        rw [hid] at h
        exact h ⟨s', _, more, .mk size extent hwritten, by simp⟩
      obtain ⟨bodies, hbodies⟩ := broken_of_not_begins _ hbroken
      rw [hs] at hbodies
      exact ⟨_, .content size extent hbodies⟩
    · exact ⟨[], .unknown size extent fun s hs => hid ⟨s, hs⟩⟩
  · exact ⟨[], .frame hsized⟩

theorem moduleDecoded_notMem_bodyEvents {sections bytes index : Nat} {bodies : List BodyLayout} :
    .moduleDecoded sections bytes ∉ bodyEvents index bodies := by
  intro h
  obtain ⟨⟨b, i⟩, -, h⟩ := List.mem_flatMap.1 h
  rcases List.mem_append.1 h with h | h
  · split at h
    · cases List.mem_singleton.1 h
    · cases h
  · cases List.mem_singleton.1 h

theorem SectionRecord.moduleDecoded_notMem (r : SectionRecord) {sections bytes : Nat} :
    .moduleDecoded sections bytes ∉ r.events := by
  rw [events, List.mem_cons, not_or]
  exact ⟨nofun, moduleDecoded_notMem_bodyEvents⟩

theorem Section.Breaks.moduleDecoded_notMem {options : DecodeOptions} {start : Nat}
    {bs : List UInt8} {events : List Event} (h : Breaks options start bs events)
    {sections bytes : Nat} : .moduleDecoded sections bytes ∉ events := by
  cases h with
  | frame => exact List.not_mem_nil
  | unknown => exact List.not_mem_nil
  | content =>
    rw [List.mem_cons, not_or]
    exact ⟨nofun, moduleDecoded_notMem_bodyEvents⟩

namespace Logged

variable {ε ε' α β : Type}

/-- The work ends this way and adds these events to whatever stands in the log. -/
def Leaves (work : Logged ε α) (events : List Event) (answer : Except ε α) : Prop :=
  ∀ log, work.run log = (answer, log ++ events)

theorem appendList_append (log : Array Event) (events more : List Event) :
    log ++ events ++ more = log ++ (events ++ more) := by
  apply Array.toList_inj.1
  simp only [Array.toList_appendList, List.append_assoc]

theorem leaves_pure (x : α) : Leaves (pure x : Logged ε α) [] (.ok x) := by
  intro log
  rw [Array.appendList_nil]
  rfl

theorem leaves_throw (e : ε) : Leaves (throw e : Logged ε α) [] (.error e) := by
  intro log
  rw [Array.appendList_nil]
  rfl

theorem leaves_note (events : List Event) : Leaves (note events : Logged ε Unit) events (.ok ()) :=
  fun _ => rfl

theorem Leaves.bind {work : Logged ε α} {next : α → Logged ε β} {events more : List Event} {x : α}
    {answer : Except ε β} (h : Leaves work events (.ok x)) (hn : Leaves (next x) more answer) :
    Leaves (work >>= next) (events ++ more) answer := by
  intro log
  change ExceptT.bindCont next (work.run log).1 (work.run log).2 = _
  rw [h log, ← appendList_append]
  exact hn (log ++ events)

theorem Leaves.note_bind {work : Logged ε α} {more : List Event} {answer : Except ε α}
    (events : List Event) (h : Leaves work more answer) :
    Leaves (do note events; work) (events ++ more) answer :=
  (leaves_note events).bind h

theorem Leaves.bind_error {work : Logged ε α} {events : List Event} {e : ε}
    (h : Leaves work events (.error e)) (next : α → Logged ε β) :
    Leaves (work >>= next) events (.error e) := by
  intro log
  change ExceptT.bindCont next (work.run log).1 (work.run log).2 = _
  rw [h log]
  rfl

theorem Leaves.map {work : Logged ε α} {events : List Event} {answer : Except ε α}
    (h : Leaves work events answer) (f : α → β) : Leaves (f <$> work) events (f <$> answer) := by
  rw [map_eq_pure_bind]
  cases answer with
  | error e => exact h.bind_error _
  | ok x =>
    rw [← List.append_nil events]
    exact h.bind (leaves_pure (f x))

theorem Leaves.adapt {work : Logged ε α} {events : List Event} {answer : Except ε α}
    (h : Leaves work events answer) (f : ε → ε') :
    Leaves (ExceptT.adapt f work) events (answer.mapError f) := by
  intro log
  change ((work.run log).1.mapError f, (work.run log).2) = _
  rw [h log]

theorem Leaves.answer_eq {work : Logged ε α} {events : List Event} {answer answer' : Except ε α}
    (h : Leaves work events answer) (h' : Gives work answer') : answer = answer' :=
  (congrArg Prod.fst (h #[])).symm.trans (h' #[])

end Logged

open Logged

namespace Decode

variable {options : DecodeOptions} {start : Nat} {bs : List UInt8} {c rest : Cursor}

theorem leaves_lift {α : Type} (places : List Place) (r : Reader α) (c : Cursor) :
    Leaves (LoggedReader.lift places r c) [] (placed places r c) := by
  unfold LoggedReader.lift placed
  cases r c with
  | error d => exact leaves_throw _
  | ok p => exact leaves_pure _

section

variable {α β : Type} {r : LoggedReader α} {events : List Event}

theorem leaves_bind {f : α → LoggedReader β} {x : α} {more : List Event}
    {answer : Except DecodeFailure (β × Cursor)} (h : Leaves (r c) events (.ok (x, rest)))
    (hf : Leaves (f x rest) more answer) : Leaves ((r >>= f) c) (events ++ more) answer :=
  h.bind hf

theorem leaves_bind_error {e : DecodeFailure} (h : Leaves (r c) events (.error e))
    (f : α → LoggedReader β) : Leaves ((r >>= f) c) events (.error e) :=
  h.bind_error _

theorem leaves_bind_pure {answer : Except DecodeFailure (α × Cursor)}
    (h : Leaves (r c) events answer) (f : α → β) :
    Leaves ((r >>= fun x => pure (f x)) c) events (answer.map fun p => (f p.1, p.2)) := by
  cases answer with
  | error e => exact leaves_bind_error h _
  | ok p =>
    rw [← List.append_nil events]
    exact leaves_bind h (leaves_pure (f p.1, p.2))

end

def readOf (x : BodyLayout) : BodyRead :=
  ⟨x.body, if 0 < x.unread then some (x.stop, x.unread) else none⟩

theorem events_readOf (x : BodyLayout) (i : Nat) : (readOf x).events i = x.events i := by
  unfold readOf BodyRead.events BodyLayout.events
  by_cases h : 0 < x.unread
  · rw [if_pos h, if_pos h]
  · rw [if_neg h, if_neg h]

theorem bodyContent_laid {fb : FuncBody} {ls es trailing : List UInt8} {visits : List Visit}
    (locals : Format.Counted LocalEntry.Written ls fb.locals)
    (code : Expr.Laid (start + ls.length) es fb.body visits)
    (hclear : BodyLayout.fault options
      ⟨fb, visits, start + ls.length + es.length, trailing.length⟩ = none) :
    bodyContent options fb.size ⟨start, ls ++ (es ++ trailing)⟩ =
      .ok (readOf ⟨fb, visits, start + ls.length + es.length, trailing.length⟩,
        ⟨start + ls.length + es.length, trailing⟩) := by
  obtain ⟨hnesting, htight⟩ := BodyLayout.fault_eq_none_iff.1 hclear
  have hlocals := (Reader.reads_vector Reader.reads_localEntry _ _ _).2
    ⟨ls, locals, Cursor.spans_front start ls (es ++ trailing)⟩
  have hcode := (Reader.reads_closedExpr { limit := options.maxNesting } _ _ _).2
    ⟨es, Expr.written_iff_laid.2 ⟨visits, code, hnesting⟩,
      Cursor.spans_front (start + ls.length) es trailing⟩
  refine Reader.bind_eq_ok.2 ⟨_, _, hlocals, Reader.bind_eq_ok.2 ⟨_, _, hcode, ?_⟩⟩
  cases trailing with
  | nil => rfl
  | cons b trailing =>
    have hloose : ¬ options.strict = true := fun hstrict => Nat.succ_ne_zero _ (htight hstrict)
    exact if_neg hloose

theorem body_laid {x : BodyLayout} (h : FuncBody.Laid c.position bs x) (hs : c.Spans bs rest)
    (hclear : x.fault options = none) : body options c = .ok (readOf x, rest) := by
  cases h with
  | @mk fb front ls es trailing visits size extent locals code =>
    obtain ⟨mid, hfront, hregion⟩ := hs.split
    have hsize := (Reader.reads_u32 _ _ _).2 ⟨front, size, hfront⟩
    have hregion := Reader.region_natCast_eq_ok_iff.2 ⟨_, extent.symm, rfl, hregion⟩
    rw [← hfront.position] at code hclear ⊢
    exact body_eq_ok_iff.2 ⟨_, _, _, _, hsize, hregion, bodyContent_laid locals code hclear⟩

theorem leaves_loggedBody {x : BodyLayout} (h : FuncBody.Laid c.position bs x)
    (hs : c.Spans bs rest) (hclear : x.fault options = none) (i : Nat) :
    Leaves (loggedBody options i c) (x.events i) (.ok (x.body, rest)) := by
  have hread := leaves_lift [.body i] (body options) c
  rw [placed, body_laid h hs hclear] at hread
  have hbody : Leaves (pure (x.body, rest) : Logged DecodeFailure _) [] _ := leaves_pure _
  have hnote := hbody.note_bind ((readOf x).events i)
  rw [List.append_nil] at hnote
  rw [← events_readOf, ← List.nil_append (BodyRead.events _ _)]
  exact hread.bind hnote

theorem leaves_loggedBody_broken (h : ¬ Format.Begins (FuncBody.Written options) c.unread)
    (i : Nat) : ∃ f, Leaves (loggedBody options i c) [] (.error f) := by
  obtain ⟨f, hf⟩ := (reads_placedBody options i).error h
  rcases Reader.bind_eq_error.1 hf with hf | ⟨read, mid, -, hf⟩
  · have hread := leaves_lift [.body i] (body options) c
    rw [hf] at hread
    exact ⟨f, hread.bind_error _⟩
  · cases hf

theorem leaves_repeated {xs : List BodyLayout} (h : Format.Sequence FuncBody.Laid start bs xs)
    (hc : c.position = start) (hs : c.Spans bs rest) (hclear : ∀ x ∈ xs, x.fault options = none)
    {n i : Nat} {done : List FuncBody} {events : List Event}
    {answer : Except DecodeFailure (List FuncBody × Cursor)}
    (hrest : Leaves (Reader.repeated (loggedBody options) n (i + xs.length)
      ((xs.map (·.body)).reverse ++ done) rest) events answer) :
    Leaves (Reader.repeated (loggedBody options) (xs.length + n) i done c)
      (bodyEvents i xs ++ events) answer := by
  induction h generalizing c i done with
  | nil =>
    rw [Cursor.spans_nil] at hs
    subst hs
    rwa [List.length_nil, Nat.zero_add]
  | @cons start front back x xs head tail ih =>
    subst hc
    obtain ⟨mid, hfront, hback⟩ := hs.split
    obtain ⟨hx, hxs⟩ := List.forall_mem_cons.1 hclear
    have hbody := leaves_loggedBody head hfront hx i
    rw [bodyEvents_cons, List.append_assoc, List.length_cons, Nat.succ_add]
    refine hbody.bind (ih hfront.position hback hxs ?_)
    rw [List.map_cons, List.reverse_cons, List.append_assoc, List.length_cons,
      Nat.add_comm xs.length, ← Nat.add_assoc] at hrest
    exact hrest

theorem leaves_repeated_all {xs : List BodyLayout}
    (h : Format.Sequence FuncBody.Laid start bs xs) (hc : c.position = start)
    (hs : c.Spans bs rest) (hclear : ∀ x ∈ xs, x.fault options = none) :
    Leaves (Reader.repeated (loggedBody options) xs.length 0 [] c) (bodyEvents 0 xs)
      (.ok (xs.map (·.body), rest)) := by
  have hend : Leaves (Reader.repeated (loggedBody options) 0 (0 + xs.length)
      ((xs.map (·.body)).reverse ++ []) rest) [] (.ok (xs.map (·.body), rest)) := by
    rw [List.append_nil, Reader.repeated, List.reverse_reverse]
    exact leaves_pure _
  have hall := leaves_repeated h hc hs hclear hend
  rwa [Nat.add_zero, List.append_nil] at hall

theorem leaves_repeated_broken {xs : List BodyLayout}
    (h : Format.Sequence FuncBody.Laid start bs xs) (hc : c.position = start)
    (hs : c.Spans bs rest) (hclear : ∀ x ∈ xs, x.fault options = none) {n : Nat}
    (hn : xs.length < n) (hbroken : ¬ Format.Begins (FuncBody.Written options) rest.unread) :
    ∃ f, Leaves (Reader.repeated (loggedBody options) n 0 [] c) (bodyEvents 0 xs) (.error f) := by
  obtain ⟨m, rfl⟩ := Nat.exists_eq_add_of_lt hn
  obtain ⟨f, hf⟩ := leaves_loggedBody_broken hbroken (0 + xs.length)
  have hend : Leaves (Reader.repeated (loggedBody options) (m + 1) (0 + xs.length)
      ((xs.map (·.body)).reverse ++ []) rest) [] (.error f) := leaves_bind_error hf _
  have hall := leaves_repeated h hc hs hclear hend
  rw [← Nat.add_assoc, List.append_nil] at hall
  exact ⟨f, hall⟩

theorem sectionContent_code (options : DecodeOptions) :
    sectionContent options .code = some (do
      let count ← LoggedReader.lift [] Reader.u32
      let bodies ← Reader.repeated (loggedBody options) count.toNat 0 []
      pure (.code bodies)) := rfl

section

variable {offset : Nat} {size : UInt32} {content : Cursor}

theorem leaves_read {id : SectionId} {r : LoggedReader Section}
    (hr : sectionContent options id = some r) {events : List Event}
    {answer : Except DecodeFailure (Section × Cursor)} (h : Leaves (r content) events answer) :
    Leaves (SectionFrame.read options ⟨id, offset, size, content⟩)
      (.sectionStart id offset size :: events)
      ((Prod.fst <$> answer).mapError (·.within (.content id))) := by
  unfold SectionFrame.read
  rw [hr]
  exact ((h.map Prod.fst).adapt _).note_bind [_]

theorem leaves_read_unknown {id : SectionId} (h : ∀ s : Section, s.id ≠ id) :
    ∃ f, Leaves (SectionFrame.read options ⟨id, offset, size, content⟩) [] (.error f) := by
  unfold SectionFrame.read
  rw [sectionContent_eq_none h]
  exact ⟨_, leaves_throw _⟩

/-- Only in a code section there is something to say of what is read. -/
theorem leaves_read_other {s : Section} (hs : s.id ≠ .code) :
    Leaves (SectionFrame.read options ⟨s.id, offset, size, content⟩)
      [.sectionStart s.id offset size]
      (SectionFrame.answer options ⟨s.id, offset, size, content⟩) := by
  have hsilent : ∃ r, sectionContent options s.id = some r ∧
      ∃ answer, Leaves (r content) [] answer := by
    cases s with
    | types => exact ⟨_, rfl, _, leaves_bind_pure (leaves_lift _ _ _) _⟩
    | functions => exact ⟨_, rfl, _, leaves_bind_pure (leaves_lift _ _ _) _⟩
    | exports => exact ⟨_, rfl, _, leaves_bind_pure (leaves_lift _ _ _) _⟩
    | code => exact absurd rfl hs
  obtain ⟨r, hr, answer, h⟩ := hsilent
  have hread : Leaves (SectionFrame.read options ⟨s.id, offset, size, content⟩) _ _ :=
    leaves_read hr h
  rwa [hread.answer_eq (gives_read options _)] at hread

theorem leaves_read_uncounted (h : ¬ Format.Begins Leb128.Unsigned content.unread) :
    ∃ f, Leaves (SectionFrame.read options ⟨.code, offset, size, content⟩)
      [.sectionStart .code offset size] (.error f) := by
  obtain ⟨f, hf⟩ := (reads_placed Reader.reads_u32 []).error h
  have hcount := leaves_lift [] Reader.u32 content
  rw [hf] at hcount
  exact ⟨_, leaves_read (sectionContent_code options) (leaves_bind_error hcount _)⟩

theorem leaves_read_counted {cs : List UInt8} {k : UInt32} (count : Leb128.Unsigned cs k)
    (hs : content.Spans cs rest) {events : List Event}
    {answer : Except DecodeFailure (List FuncBody × Cursor)}
    (h : Leaves (Reader.repeated (loggedBody options) k.toNat 0 [] rest) events answer) :
    Leaves (SectionFrame.read options ⟨.code, offset, size, content⟩)
      (.sectionStart .code offset size :: events)
      ((answer.map fun p => .code p.1).mapError (·.within (.content .code))) := by
  have hcount := leaves_lift [] Reader.u32 content
  rw [(reads_placed Reader.reads_u32 [] _ _ _).2 ⟨cs, count, hs⟩] at hcount
  have hread : Leaves (SectionFrame.read options ⟨.code, offset, size, content⟩) _ _ :=
    leaves_read (sectionContent_code options) (leaves_bind hcount (leaves_bind_pure h Section.code))
  cases answer with
  | error f => exact hread
  | ok p => exact hread

end

theorem leaves_read_laid {x : SectionLayout} {front content : List UInt8} {n : UInt32}
    (size : Leb128.Unsigned front n)
    (laid : Section.Laid start (x.content.id.byte :: (front ++ content)) x)
    (hclear : ∀ b ∈ x.bodies, b.fault options = none) :
    Leaves (SectionFrame.read options
        ⟨x.content.id, start, n, ⟨start + 1 + front.length, content⟩⟩)
      (.sectionStart x.content.id start n :: bodyEvents 0 x.bodies) (.ok x.content) := by
  have hwritten := Section.written_iff_laid.2 ⟨x, laid, rfl, hclear⟩
  -- the layout has a size of its own, which is the one of the frame since both are read off `bytes`
  generalize hbytes : x.content.id.byte :: (front ++ content) = bytes at laid hwritten
  cases laid with
  | @code front' cs bs trailing n' k bodies size' extent' count length items =>
    obtain ⟨rfl, rfl, rfl⟩ := Section.sized_inj size size' (List.cons.inj hbytes).2
    have hcount := Cursor.spans_front (start + 1 + front.length) cs (bs ++ trailing)
    have hbodies := leaves_repeated_all items rfl (Cursor.spans_front _ bs trailing) hclear
    rw [← length] at hbodies
    rw [List.append_assoc]
    exact leaves_read_counted count hcount hbodies
  | @other s _ written id =>
    have hwritten : Section.Written options bytes s := hwritten
    cases hwritten with
    | @mk _ front' bs trailing n' size' extent' hcontent =>
      obtain ⟨rfl, rfl, rfl⟩ := Section.sized_inj size size' (List.cons.inj hbytes).2
      have hanswer : SectionFrame.answer options
          ⟨s.id, start, n, ⟨start + 1 + front.length, bs ++ trailing⟩⟩ = .ok s :=
        answer_eq_ok_iff.2 ⟨rfl, bs, trailing, rfl, hcontent⟩
      dsimp only
      rw [← hanswer]
      exact leaves_read_other id

theorem leaves_read_broken {id : SectionId} {bodies : List BodyLayout}
    (h : Section.Broken options start id bs bodies) (offset : Nat) (size : UInt32) :
    ∃ f, Leaves (SectionFrame.read options ⟨id, offset, size, ⟨start, bs⟩⟩)
      (.sectionStart id offset size :: bodyEvents 0 bodies) (.error f) := by
  cases h with
  | count uncounted => exact leaves_read_uncounted uncounted
  | @body cs front back k _ count items faultless missing broken =>
    have hcount := Cursor.spans_front start cs (front ++ back)
    obtain ⟨f, hf⟩ := leaves_repeated_broken items rfl (Cursor.spans_front _ front back) faultless
      missing broken
    exact ⟨_, leaves_read_counted count hcount hf⟩
  | @other s bs notCode broken =>
    have hread : Leaves (SectionFrame.read options ⟨s.id, offset, size, ⟨start, bs⟩⟩) _ _ :=
      leaves_read_other notCode
    cases hanswer : SectionFrame.answer options ⟨s.id, offset, size, ⟨start, bs⟩⟩ with
    | error f =>
      rw [hanswer] at hread
      exact ⟨f, hread⟩
    | ok s' =>
      obtain ⟨hid, front, trailing, hunread, hcontent⟩ := answer_eq_ok_iff.1 hanswer
      exact absurd ⟨s', front, trailing, ⟨hid, hcontent⟩, hunread⟩ broken

theorem sections_nil (done : List Section) :
    sections options ⟨start, []⟩ done = pure done.reverse := by
  rw [sections]

theorem sections_error {id : UInt8} {after : List UInt8} {f : DecodeFailure}
    (hc : c.unread = id :: after)
    (hf : sectionFrame ⟨id⟩ c.position ⟨c.position + 1, after⟩ = .error f) (done : List Section) :
    sections options c done = throw f := by
  rw [sections]
  split
  · next h => cases hc.symm.trans h
  · next h =>
    cases hc.symm.trans h
    split
    · next h =>
      cases hf.symm.trans h
      rfl
    · next h => cases hf.symm.trans h

theorem sections_cons {id : UInt8} {after : List UInt8} {frame : SectionFrame}
    (hc : c.unread = id :: after)
    (hf : sectionFrame ⟨id⟩ c.position ⟨c.position + 1, after⟩ = .ok (frame, rest))
    (done : List Section) :
    sections options c done = (do
      let s ← frame.read options
      sections options rest (s :: done)) := by
  rw [sections]
  split
  · next h => cases hc.symm.trans h
  · next h =>
    cases hc.symm.trans h
    split
    · next h => cases hf.symm.trans h
    · next h =>
      cases hf.symm.trans h
      rfl

theorem leaves_sections_recorded {r : SectionRecord} (h : Section.Recorded start bs r)
    (hclear : ∀ b ∈ r.layout.bodies, b.fault options = none) {more : List UInt8}
    {done : List Section} {events : List Event} {answer : Except DecodeFailure (List Section)}
    (hrest : Leaves (sections options ⟨start + bs.length, more⟩ (r.layout.content :: done)) events
      answer) :
    Leaves (sections options ⟨start, bs ++ more⟩ done) (r.events ++ events) answer := by
  cases h with
  | @mk x front content n size extent laid =>
    rw [List.length_cons, ← Nat.add_assoc, Nat.add_right_comm] at hrest
    rw [sections_cons rfl (sectionFrame_front size extent start more)]
    obtain rfl := laid.extent.1
    have hread : Leaves _ (SectionRecord.events ⟨x, front.length, n⟩) _ :=
      leaves_read_laid size laid hclear
    exact hread.bind hrest

theorem leaves_sections {front : List UInt8} {rs : List SectionRecord}
    (h : Format.Sequence Section.Recorded start front rs)
    (hclear : ∀ r ∈ rs, ∀ b ∈ r.layout.bodies, b.fault options = none) {more : List UInt8}
    {done : List Section} {events : List Event} {answer : Except DecodeFailure (List Section)}
    (hrest : Leaves (sections options ⟨start + front.length, more⟩
      ((rs.map (·.layout.content)).reverse ++ done)) events answer) :
    Leaves (sections options ⟨start, front ++ more⟩ done) (rs.flatMap (·.events) ++ events)
      answer := by
  induction h generalizing done with
  | nil => exact hrest
  | @cons start front back r rs head tail ih =>
    obtain ⟨hr, hrs⟩ := List.forall_mem_cons.1 hclear
    rw [List.length_append, ← Nat.add_assoc, List.map_cons, List.reverse_cons,
      List.append_assoc] at hrest
    rw [List.append_assoc, List.flatMap_cons, List.append_assoc]
    exact leaves_sections_recorded head hr (ih hrs hrest)

theorem leaves_sections_breaks {events : List Event} (h : Section.Breaks options start bs events)
    (done : List Section) : ∃ f, Leaves (sections options ⟨start, bs⟩ done) events (.error f) := by
  cases h with
  | @frame id after cut =>
    cases hf : sectionFrame ⟨id⟩ start ⟨start + 1, after⟩ with
    | error f =>
      rw [sections_error rfl hf]
      exact ⟨f, leaves_throw f⟩
    | ok p =>
      obtain ⟨-, -, front, bs, size, extent, -, hs⟩ := sectionFrame_eq_ok_iff.1 hf
      exact absurd ⟨_, _, _, .mk size extent.symm, hs.unread⟩ cut
  | unknown size extent unknown =>
    rw [sections_cons rfl (sectionFrame_front size extent start _)]
    obtain ⟨f, hf⟩ := leaves_read_unknown unknown
    exact ⟨f, hf.bind_error _⟩
  | content size extent broken =>
    rw [sections_cons rfl (sectionFrame_front size extent start _)]
    obtain ⟨f, hf⟩ := leaves_read_broken broken start _
    exact ⟨f, hf.bind_error _⟩

end Decode

end WasmScope
