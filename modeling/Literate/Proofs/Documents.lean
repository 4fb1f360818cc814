import Literate.Proofs.Transcript

/-!
# What every document says

Whatever a document says, it says line by line: a line is stored, or is a directive, or stops the call. So what holds
of all that a single line can say (`Rule`) holds of all that a document says, however deep its files are inside each
other (`transcribeSource_follows`), and of what a call reads (`transcribeCall_follows`).
-/

namespace Literate

open Text

/-- A property of all items that a single line can have, and one of all reasons for which it can stop a call. -/
structure Rule (P : Item → Prop) (Q : Stop → Prop) : Prop where
  literal : ∀ text, P (.literal text)
  directive : ∀ (d : Directive) args l, ∀ i ∈ d.items args l, P i
  delimiter : ∀ fault l chain, fault = .regionNested ∨ fault = .regionOutside →
    Q (.failed (.delimiter fault l chain))
  unreadable : ∀ l target cause, Q (.failed (.unreadableInclude l target cause))
  duplicate : ∀ l path chain, Q (.failed (.duplicateInclude l path chain))
  crashed : Q .crashed

/-- A rule about items only. -/
theorem Rule.ofItems {P : Item → Prop} (literal : ∀ text, P (.literal text))
    (directive : ∀ (d : Directive) args l, ∀ i ∈ d.items args l, P i) : Rule P fun _ => True where
  literal := literal
  directive := directive
  delimiter _ _ _ _ := trivial
  unreadable _ _ _ := trivial
  duplicate _ _ _ := trivial
  crashed := trivial

/-- All items of a stretch of reading have a property, and so has the reason why it stops, if it does. -/
structure Transcript.Follows (P : Item → Prop) (Q : Stop → Prop) (t : Transcript) : Prop where
  items : ∀ i ∈ t.items, P i
  stop : ∀ stop, t.stop = some stop → Q stop

/-- The reason why reading stops after the last line of a source, if it does, has a property. -/
def Source.EndsIn (Q : Stop → Prop) (name : Text) (source : Source) : Prop :=
  ∀ stop, source.stop? name = some stop → Q stop

namespace Transcript.Follows

variable {P : Item → Prop} {Q : Stop → Prop}

theorem nil (c : Control) : Follows P Q ⟨c, [], none⟩ where
  items _ hi := absurd hi List.not_mem_nil
  stop _ hs := nomatch hs

theorem ofItems {items : List Item} (h : ∀ i ∈ items, P i) (c : Control) : Follows P Q ⟨c, items, none⟩ where
  items := h
  stop _ hs := nomatch hs

theorem ofStop {stop : Stop} (h : Q stop) (c : Control) : Follows P Q ⟨c, [], some stop⟩ where
  items _ hi := absurd hi List.not_mem_nil
  stop _ hs := Option.some.inj hs ▸ h

theorem ofStop? {stop : Option Stop} (h : ∀ s, stop = some s → Q s) (c : Control) : Follows P Q ⟨c, [], stop⟩ where
  items _ hi := absurd hi List.not_mem_nil
  stop := h

/-- The control has no part in it. -/
theorem withControl {t : Transcript} (h : t.Follows P Q) (c : Control) : Follows P Q { t with control := c } :=
  ⟨h.items, h.stop⟩

theorem andThen {t : Transcript} {next : Control → Transcript} (h : t.Follows P Q)
    (hn : ∀ c, (next c).Follows P Q) : (t.andThen next).Follows P Q := by
  cases hs : t.stop with
  | none =>
    rw [andThen_of_none hs]
    exact ⟨fun i hi => (List.mem_append.mp hi).elim (h.items i) ((hn _).items i), (hn _).stop⟩
  | some stop =>
    rw [andThen_of_stop hs]
    exact h

end Transcript.Follows

section Reading

variable {P : Item → Prop} {Q : Stop → Prop} {lib : Library} {read : Transcriber}

theorem transcribeInclude_follows (settings : Settings) (h : Rule P Q)
    (hread : ∀ path source c, lib.read path = .ok source → (read path source c).Follows P Q) (target : Text)
    (l : LogicalLine) (c : Control) : (transcribeInclude settings lib read target l c).Follows P Q := by
  unfold transcribeInclude
  split
  · exact .ofStop (h.unreadable _ _ _) c
  · rename_i path source hfirst
    split
    · exact .ofStop (h.duplicate _ _ _) c
    · exact (hread path source _ (Library.read_of_first? hfirst)).withControl _

/-- A single line follows the rule, if the files that it can include do. -/
theorem transcribeLine_follows (settings : Settings) (h : Rule P Q)
    (hread : ∀ path source c, lib.read path = .ok source → (read path source c).Follows P Q) (l : LogicalLine)
    (c : Control) : (transcribeLine settings lib read l c).Follows P Q := by
  have hliteral : ∀ c : Control, Transcript.Follows P Q ⟨c, [.literal l.text], none⟩ :=
    .ofItems fun i hi => List.mem_singleton.mp hi ▸ h.literal l.text
  unfold transcribeLine
  split
  · unfold transcribeInside
    cases settings.grammar.classify l with
    | none => exact hliteral c
    | some d =>
      obtain ⟨d, args⟩ := d
      cases d with
      | beginRegion => exact .ofStop (h.delimiter _ l _ (.inl rfl)) c
      | endRegion => exact .nil _
      | includeCode => exact .nil _
      | includeFile =>
        dsimp only
        cases fields args with
        | nil => exact .nil c
        | cons target rest => exact transcribeInclude_follows settings h hread target l c
      | _ => exact .ofItems (h.directive _ args l) c
  · unfold transcribeOutside
    split
    · exact .nil _
    · split
      · exact .ofStop (h.delimiter _ l _ (.inr rfl)) c
      · split
        · exact hliteral c
        · exact .nil c

theorem transcribeLines_follows (settings : Settings) (h : Rule P Q)
    (hread : ∀ path source c, lib.read path = .ok source → (read path source c).Follows P Q) (file : Text) (n : Nat)
    (texts : List Text) (c : Control) : (transcribeLines settings lib read file n texts c).Follows P Q := by
  induction texts generalizing n c with
  | nil => exact .nil c
  | cons text rest ih =>
    refine Transcript.Follows.andThen ?_ (ih (n + 1))
    unfold transcribePhysical
    split
    · exact .nil _
    · exact transcribeLine_follows settings h hread _ _

/-- **All that a document says follows the rule**, and so do the files that it includes. -/
theorem transcribeSource_follows (settings : Settings) (h : Rule P Q)
    (hlib : ∀ path source, lib.read path = .ok source → source.EndsIn Q path) (depth : Nat) {name : Text}
    {source : Source} (hs : source.EndsIn Q name) (c : Control) :
    (transcribeSource settings lib depth name source c).Follows P Q := by
  induction depth generalizing name source c with
  | zero => exact .ofStop h.crashed c
  | succ depth ih =>
    refine (transcribeLines_follows settings h (fun path source c hread => ?_) name 1 _ c).andThen fun c => .ofStop? hs c
    exact ih (hlib path source hread) c

theorem transcribeCall_follows (settings : Settings) (h : Rule P Q)
    (hlib : ∀ path source, lib.read path = .ok source → source.EndsIn Q path) {live : Bool}
    (hlive : live = false → Q .canceled) {name : Text} {source : Source} (hs : source.EndsIn Q name) (c : Control) :
    (transcribeCall settings lib live name source c).Follows P Q := by
  refine Transcript.Follows.withControl ?_ _
  cases live with
  | false => exact .ofStop (hlive rfl) c
  | true => exact transcribeSource_follows settings h hlib _ hs _

/-- All items of a call that reads documents follow a rule about items. -/
theorem Reading.transcribe_items (settings : Settings) (h : Rule P fun _ => True) (c : Control) {r : Reading}
    (hr : ∀ q, r = .request q → P (.requested q)) : ∀ i ∈ (r.transcribe settings c).items, P i := by
  have hends : ∀ name (source : Source), source.EndsIn (fun _ => True) name := fun _ _ _ _ => trivial
  cases r with
  | parse lib live name source =>
    exact (transcribeCall_follows settings h (fun _ _ _ => hends _ _) (fun _ => trivial) (hends name source) c).items
  | parseFile lib live name =>
    simp only [transcribe]
    cases lib.read name with
    | error e => exact fun i hi => absurd hi List.not_mem_nil
    | ok source =>
      exact (transcribeCall_follows settings h (fun _ _ _ => hends _ _) (fun _ => trivial) (hends name source) c).items
  | request q => exact fun i hi => List.mem_singleton.mp hi ▸ hr q rfl

/-- And so do all items of calls that read documents, one after another. -/
theorem Reading.history_items (settings : Settings) (h : Rule P fun _ => True) (c : Control) {readings : List Reading}
    (hr : ∀ q, .request q ∈ readings → P (.requested q)) : ∀ i ∈ history settings c readings, P i := by
  induction readings generalizing c with
  | nil => exact fun i hi => absurd hi List.not_mem_nil
  | cons r rest ih =>
    intro i hi
    rcases List.mem_append.mp hi with hi | hi
    · exact Reading.transcribe_items settings h c (fun q hq => hr q (hq ▸ List.mem_cons_self)) i hi
    · exact ih _ (fun q hq => hr q (List.mem_cons_of_mem _ hq)) i hi

end Reading

end Literate
