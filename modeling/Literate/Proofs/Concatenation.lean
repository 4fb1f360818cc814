import Literate.Proofs.Relocation

/-!
# Sources one after another

A document may be handed over in parts. Whether a region is open, whether code is to be included, the open names and
the fragment that waits for its continuation outlive a call; only the numbers of lines begin anew. So a source that is
cut after a line feed is read by two calls as it is by one, up to these numbers (`parse_concatenation`).

The lines of the whole are those of the parts (`physicalLines_append`), and reading on from one line to the next is
what the second call does (`transcribeLines_append`).
-/

namespace Literate

open Text Log

/-! ## Lines of a text -/

namespace Text

/-- Whether a text has no last line that goes on: it is empty, or ends in a line feed. -/
def IsWhole (t : Text) : Prop := t = [] ∨ t.getLast? = some (byte '\n')

instance (t : Text) : Decidable t.IsWhole := inferInstanceAs (Decidable (_ ∨ _))

theorem IsWhole.of_cons {b c : UInt8} {t : Text} (h : IsWhole (b :: c :: t)) : IsWhole (c :: t) :=
  Or.inr ((List.getLast?_cons_cons).symm.trans (h.resolve_left (List.cons_ne_nil _ _)))

/-- The lines of a text that has none to go on, and after them those of what follows. -/
theorem physicalLines_append {t : Text} (h : t.IsWhole) (more : Text) :
    physicalLines (t ++ more) = physicalLines t ++ physicalLines more := by
  induction t with
  | nil => rfl
  | cons b rest ih =>
    cases rest with
    | nil =>
      obtain rfl : b = byte '\n' := Option.some.inj (h.resolve_left (List.cons_ne_nil _ _))
      show pushLine (byte '\n') (physicalLines more) = [byte '\n'] :: physicalLines more
      cases physicalLines more <;> rfl
    | cons c rest =>
      show pushLine b (physicalLines (c :: rest ++ more)) = pushLine b (physicalLines (c :: rest)) ++ physicalLines more
      rw [ih h.of_cons]
      -- the line that the first byte belongs to is one of the first text
      have hne : physicalLines (c :: rest) ≠ [] := by
        show pushLine c (physicalLines rest) ≠ []
        unfold pushLine
        split
        · exact List.cons_ne_nil _ _
        · split <;> exact List.cons_ne_nil _ _
      obtain ⟨line, lines, hl⟩ := List.exists_cons_of_ne_nil hne
      rw [hl]
      show (if b = byte '\n' then _ else _) = (if b = byte '\n' then _ else _) ++ _
      split <;> rfl

end Text

/-! ## Transcripts one after another -/

namespace Transcript

@[simp] theorem andThen_done (t : Transcript) : (t.andThen fun c => ⟨c, [], none⟩) = t := by
  obtain ⟨c, items, _ | stop⟩ := t
  · simp only [andThen, List.append_nil]
  · rfl

theorem andThen_assoc (t : Transcript) (next after : Control → Transcript) :
    (t.andThen next).andThen after = t.andThen fun c => (next c).andThen after := by
  obtain ⟨c, items, _ | stop⟩ := t
  · simp only [andThen]
    split
    · rw [List.append_assoc]
    · rfl
  · rfl

theorem apply_andThen {t : Transcript} (h : t.stop = none) (next : Control → Transcript) (w : Web) :
    (t.andThen next).apply w = (next t.control).apply (t.apply w) := by
  rw [andThen_of_none h]
  simp only [apply, Web.replay_append, Web.replay_under, Web.under_under]

/-- The stretch, after which no file is being read. -/
def leave (t : Transcript) : Transcript := { t with control := { t.control with chain := [] } }

theorem leave_andThen {t : Transcript} (h : t.stop = none) (next : Control → Transcript) :
    (t.andThen next).leave = t.andThen fun c => (next c).leave := by
  rw [andThen_of_none h, andThen_of_none h]
  rfl

/-- The files that were being read leave no trace in a web once another stretch of reading is over. -/
theorem apply_leave (t next : Transcript) (w : Web) : next.apply (t.leave.apply w) = next.apply (t.apply w) :=
  apply_under next (t.apply w) t.leave.control

theorem Alike.leave {ρ : Position → Position} {t t' : Transcript} (h : t.Alike ρ t') : t.leave.Alike ρ t'.leave :=
  ⟨⟨h.control.inRegion, h.control.includeCode, h.control.pending⟩, h.items, h.stop⟩

end Transcript

theorem transcribeLines_append (settings : Settings) (lib : Library) (read : Transcriber) (file : Text) (n : Nat)
    (texts more : List Text) (c : Control) :
    transcribeLines settings lib read file n (texts ++ more) c =
      (transcribeLines settings lib read file n texts c).andThen
        (transcribeLines settings lib read file (n + texts.length) more) := by
  induction texts generalizing n c with
  | nil => simp only [List.nil_append, transcribeLines, Transcript.andThen, List.length_nil, Nat.add_zero]
  | cons text rest ih =>
    simp only [List.cons_append, transcribeLines, Transcript.andThen_assoc, List.length_cons]
    congr 1
    funext d
    rw [ih, Nat.add_right_comm, Nat.add_assoc]

/-! ## Calls one after another -/

section Calls

variable (settings : Settings) (lib : Library) (name : Text)

/-- A source that begins with whole lines is transcribed like these lines, and after them the rest, whose lines are
numbered on. -/
theorem transcribeSource_append (depth : Nat) {text : Text} (h : text.IsWhole) (more : Source) (c : Control) :
    transcribeSource settings lib (depth + 1) name { more with text := text ++ more.text } c =
      (transcribeLines settings lib (transcribeSource settings lib depth) name 1 (physicalLines text) c).andThen
        (transcribeFrom settings lib depth name (1 + (physicalLines text).length) more) := by
  rw [transcribeSource_succ, transcribeFrom, physicalLines_append h, transcribeLines_append, Transcript.andThen_assoc]
  rfl

theorem transcribeCall_live (source : Source) (c : Control) :
    transcribeCall settings lib true name source c =
      (transcribeSource settings lib (lib.limit + 1) name source { c with chain := [Path.clean name] }).leave := rfl

/-- The lines of a text as they are read by a call: inside no other file. -/
def transcribeText (text : Text) (c : Control) : Transcript :=
  transcribeLines settings lib (transcribeSource settings lib lib.limit) name 1 (physicalLines text)
    { c with chain := [Path.clean name] }

theorem transcribeText_chain (text : Text) (c : Control) :
    (transcribeText settings lib name text c).control.chain = [Path.clean name] :=
  transcribeLines_chain settings lib (transcribeSource_keepsChain settings lib lib.limit) name 1 _ _

variable {w : Web} (hx : w.expanded = false)
include hx

theorem parse_text_transcribes (text : Text) :
    Transcribes (transcribeText settings lib name text w.control).leave w
      (w.parse settings lib true name { text }) := by
  have h := parse_transcribes settings lib true name { text } hx
  rw [← Transcript.andThen_done (transcribeText settings lib name text w.control)]
  exact h

theorem parse_append_transcribes {text : Text} (h : text.IsWhole) (more : Source) :
    Transcribes ((transcribeText settings lib name text w.control).andThen
        (transcribeFrom settings lib lib.limit name (1 + (physicalLines text).length) more)).leave w
      (w.parse settings lib true name { more with text := text ++ more.text }) := by
  have hp := parse_transcribes settings lib true name { more with text := text ++ more.text } hx
  rw [transcribeCall_live, transcribeSource_append settings lib name lib.limit h] at hp
  exact hp

omit hx

namespace Web

/-- Reads two sources under one name by two calls, the second only if the first goes through. -/
def parseBoth (live : Bool) (first second : Source) (w : Web) : Outcome :=
  match w.parse settings lib live name first with
  | (s, none) => s.web.parse settings lib live name second
  | stopped => stopped

end Web

/-- **Sources one after another are read like one**, up to the numbers of lines. -/
theorem parse_concatenation (live : Bool) {text : Text} (h : text.IsWhole) (more : Source) (w : Web) :
    let parts := w.parseBoth settings lib name live { text } more
    let whole := w.parse settings lib live name { more with text := text ++ more.text }
    parts.2.map Stop.kind = whole.2.map Stop.kind ∧
      parts.1.web.relocate Position.unnumbered = whole.1.web.relocate Position.unnumbered := by
  intro parts whole
  have hsame : parts = whole → parts.2.map Stop.kind = whole.2.map Stop.kind ∧
      parts.1.web.relocate Position.unnumbered = whole.1.web.relocate Position.unnumbered :=
    fun hp => ⟨by rw [hp], by rw [hp]⟩
  cases hx : w.expanded with
  | true => exact hsame (by simp only [parts, whole, Web.parseBoth, Web.parse, hx, if_true])
  | false =>
    cases live with
    | false => exact hsame (by simp only [parts, whole, Web.parseBoth, Web.parse, hx, if_false, Bool.false_eq_true])
    | true =>
      have hfirst := parse_text_transcribes settings lib name hx text
      have hwhole : Transcribes _ w whole := parse_append_transcribes settings lib name hx h more
      have hchain := transcribeText_chain settings lib name text w.control
      generalize transcribeText settings lib name text w.control = t at hfirst hwhole hchain
      rcases hp : w.parse settings lib true name { text } with ⟨s, _ | stop⟩
      · rw [hp] at hfirst
        obtain ⟨hs, hstop⟩ : s.web = t.leave.apply w ∧ t.stop = none := ⟨hfirst.1, hfirst.2.symm⟩
        have hparts : parts = s.web.parse settings lib true name more := by simp only [parts, Web.parseBoth, hp]
        -- the second call begins under the control under which the first one leaves off
        have hcontrol : { s.web.control with chain := [Path.clean name] } = t.control := by
          rw [hs, ← hchain]
          rfl
        have hsecond := parse_transcribes settings lib true name more (w := s.web)
          (by rw [hs]; exact (Web.replay_frame w t.items).1.trans hx)
        rw [← hparts, transcribeCall_live, hcontrol, transcribeSource_succ] at hsecond
        have halike := transcribeFrom_unnumbered (transcribeSource_unnumbered settings lib lib.limit) name 1
          (1 + (physicalLines text).length) more (.refl _ t.control) rfl
        rw [Transcript.leave_andThen hstop] at hwhole
        obtain ⟨hweb, hend⟩ := hwhole
        rw [Transcript.apply_andThen hstop] at hweb
        rw [Transcript.andThen_of_none hstop] at hend
        refine ⟨?_, ?_⟩
        · rw [hsecond.2, hend]
          exact halike.stop
        · rw [hsecond.1, hweb, hs, Transcript.apply_leave]
          exact halike.leave.relocate_apply rfl rfl
      · rw [hp] at hfirst
        have hstop : t.stop = some stop := hfirst.2.symm
        have hparts : parts = (s, some stop) := by simp only [parts, Web.parseBoth, hp]
        rw [Transcript.andThen_of_stop hstop] at hwhole
        rw [hparts]
        exact ⟨congrArg _ (hfirst.2.trans hwhole.2.symm), congrArg _ (hfirst.1.trans hwhole.1.symm)⟩

end Calls

/-- A chunk that uses another one, by a directive that is continued on the next lines. -/
def continued : Text := "=begin litweb\n=begin_chunk a\n=use_chunk \\\n"

/-- The directive is read across the two calls. -/
theorem parse_concatenation_continued :
    continued.IsWhole ∧
    (Web.empty.parseBoth .standard (.ofList []) "f" true { text := continued }
      { text := "b \\\n c\n=end_chunk a\n" }).1.web.relocate Position.unnumbered =
    (Web.empty.parse .standard (.ofList []) true "f"
      { text := continued ++ "b \\\n c\n=end_chunk a\n" }).1.web.relocate Position.unnumbered ∧
    (Web.empty.parse .standard (.ofList []) true "f"
      { text := continued ++ "b \\\n c\n=end_chunk a\n" }).1.web.repository.chunk =
        [(("a" : Text), ⟨#[.use ⟨.chunk, ["b", "c"], "=use_chunk b  c", ⟨"f", 3⟩⟩], false⟩)] := by
  have hwhole : continued.IsWhole := by decide
  exact ⟨hwhole, (parse_concatenation .standard (.ofList []) "f" true hwhole
    { text := "b \\\n c\n=end_chunk a\n" } .empty).2, by decide⟩

end Literate
