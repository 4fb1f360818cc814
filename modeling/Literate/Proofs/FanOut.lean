import Literate.Proofs.OpenNames
import Mathlib.Data.List.Basic
import Mathlib.Data.List.Induction

/-!
# The fan-out of accepted items

A history is the list of items of any number of reading calls. It alone says what a web holds that was empty before
them (`read_fan_out`): the stored lines are its literals, the names of a namespace are those that its begin directives
list, and what a reference receives are the accepted items at the moments at which its name is open, which is when the
last directive that lists the name begins it. Each item is received once, in order, however often and under whatever
other names it was begun.

The proof is an invariant of a web and the history that led to it (`Records`), which one more item keeps
(`Records.enact`).
-/

namespace Literate

/-! ## What a history says -/

/-- The line that an item stores. -/
def Item.literal? : Item → Option Text
  | literal text => some text
  | _ => none

/-- The names that an item begins in a namespace. -/
def Item.begun (k : Kind) : Item → List Text
  | opened l names => if l = k then names else []
  | _ => []

/-- What an item says about whether a name is open: a directive that lists it begins or ends it. -/
def Item.verdict (ref : Ref) : Item → Option Bool
  | opened k names => if k = ref.kind ∧ ref.name ∈ names then some true else none
  | closed k names => if k = ref.kind ∧ ref.name ∈ names then some false else none
  | _ => none

/-- The texts of the lines that a history stores. -/
def literals (history : List Item) : List Text := history.filterMap Item.literal?

/-- The names that a history begins in a namespace, in order and with repetitions. -/
def mentions (k : Kind) (history : List Item) : List Text := history.flatMap (Item.begun k)

/-- Whether a name is open after a history: the last directive that lists it begins it. -/
def isOpenAfter (ref : Ref) (history : List Item) : Bool := (history.reverse.findSome? (Item.verdict ref)).getD false

/-- The element that an item accepts, after a history. -/
def Item.element? (history : List Item) : Item → Option Element
  | literal _ => some (.line (literals history).length)
  | use u => some (.use u)
  | _ => none

/-- What a reference receives at moment `n` of a history. -/
def arrival (ref : Ref) (history : List Item) (n : Nat) : Option Element :=
  if isOpenAfter ref (history.take n) then history[n]?.bind (Item.element? (history.take n)) else none

/-- The elements that a reference receives, in order: those accepted at the moments at which its name is open. -/
def received (ref : Ref) (history : List Item) : List Element :=
  (List.range history.length).filterMap (arrival ref history)

/-! ## One more item -/

theorem literals_snoc (history : List Item) (i : Item) :
    literals (history ++ [i]) = literals history ++ i.literal?.toList := by
  cases i <;> simp [literals, Item.literal?]

theorem mentions_snoc (k : Kind) (history : List Item) (i : Item) :
    mentions k (history ++ [i]) = mentions k history ++ i.begun k := by
  simp [mentions]

/-- The names that are mentioned are those that a directive of their kind lists. -/
theorem mem_mentions_iff (ref : Ref) (history : List Item) : ref.name ∈ mentions ref.kind history ↔
    ∃ names, .opened ref.kind names ∈ history ∧ ref.name ∈ names := by
  unfold mentions
  rw [List.mem_flatMap]
  constructor
  · rintro ⟨i, hi, hn⟩
    cases i with
    | opened l names =>
      simp only [Item.begun] at hn
      split at hn
      · rename_i hl
        exact ⟨names, hl ▸ hi, hn⟩
      · exact absurd hn List.not_mem_nil
    | _ => exact absurd hn List.not_mem_nil
  · rintro ⟨names, hi, hn⟩
    exact ⟨_, hi, by rw [Item.begun, if_pos rfl]; exact hn⟩

theorem isOpenAfter_snoc (ref : Ref) (history : List Item) (i : Item) :
    isOpenAfter ref (history ++ [i]) = (i.verdict ref).getD (isOpenAfter ref history) := by
  unfold isOpenAfter
  rw [List.reverse_append, List.reverse_singleton, List.singleton_append, List.findSome?_cons]
  cases i.verdict ref <;> rfl

/-- Later items change nothing about earlier moments. -/
theorem arrival_snoc_of_lt (ref : Ref) {history : List Item} (i : Item) {n : Nat} (h : n < history.length) :
    arrival ref (history ++ [i]) n = arrival ref history n := by
  unfold arrival
  rw [List.take_append_of_le_length (Nat.le_of_lt h), List.getElem?_append_left h]

theorem received_snoc (ref : Ref) (history : List Item) (i : Item) : received ref (history ++ [i]) =
    received ref history ++ (if isOpenAfter ref history then (i.element? history).toList else []) := by
  have hlast : arrival ref (history ++ [i]) history.length =
      if isOpenAfter ref history then i.element? history else none := by
    simp [arrival]
  have hpast : (List.range history.length).filterMap (arrival ref (history ++ [i])) = received ref history :=
    List.filterMap_congr fun n hn => arrival_snoc_of_lt ref i (List.mem_range.mp hn)
  unfold received
  rw [List.length_append, List.length_singleton, List.range_succ, List.filterMap_append, hpast, received]
  congr 1
  rw [List.filterMap_cons, hlast, List.filterMap_nil]
  by_cases h : isOpenAfter ref history
  · rw [if_pos h, if_pos h]
    cases i.element? history <;> rfl
  · rw [if_neg h, if_neg h]

/-- Only a name that was begun can be open. -/
theorem mem_mentions_of_isOpenAfter {ref : Ref} {history : List Item} (h : isOpenAfter ref history) :
    ref.name ∈ mentions ref.kind history := by
  induction history using List.reverseRecOn with
  | nil => exact absurd h (by simp [isOpenAfter])
  | append_singleton history i ih =>
    rw [isOpenAfter_snoc] at h
    rw [mentions_snoc, List.mem_append]
    cases i with
    | literal text => exact Or.inl (ih h)
    | use u => exact Or.inl (ih h)
    | requested r => exact Or.inl (ih h)
    | opened k names =>
      simp only [Item.verdict, Item.begun] at h ⊢
      split at h
      · rename_i hk
        exact Or.inr (by rw [if_pos hk.1]; exact hk.2)
      · exact Or.inl (ih h)
    | closed k names =>
      simp only [Item.verdict] at h
      split at h
      · exact absurd h (by simp)
      · exact Or.inl (ih h)

/-- A name that was never begun has received nothing. -/
theorem received_of_not_mem_mentions {ref : Ref} {history : List Item} (h : ref.name ∉ mentions ref.kind history) :
    received ref history = [] := by
  induction history using List.reverseRecOn with
  | nil => rfl
  | append_singleton history i ih =>
    rw [mentions_snoc, List.mem_append, not_or] at h
    rw [received_snoc, ih h.1, if_neg (fun ho => h.1 (mem_mentions_of_isOpenAfter ho)), List.append_nil]

/-! ## The invariant -/

/-- A web holds what a history says, and nothing else. -/
structure Records (history : List Item) (w : Web) : Prop where
  tidy : w.Tidy
  lines : w.lines.toList = literals history
  names : ∀ k, w.repository.names k = (mentions k history).eraseDups
  opened : ∀ ref : Ref, ref.name ∈ w.opened.get ref.kind ↔ isOpenAfter ref history
  entity : ∀ ref : Ref, w.repository.find? ref =
    if ref.name ∈ mentions ref.kind history then some ⟨(received ref history).toArray, false⟩ else none

namespace Records

theorem empty : Records [] .empty where
  tidy := Web.tidy_empty
  lines := rfl
  names k := by cases k <;> rfl
  opened ref := by obtain ⟨k, name⟩ := ref; cases k <;> simp [Web.empty, PerKind.get, isOpenAfter]
  entity ref := by obtain ⟨k, name⟩ := ref; cases k <;> rfl

variable {history : List Item} {w : Web}

/-- An element that is accepted now is received by the references whose names are open now. -/
theorem push (h : Records history w) {i : Item} {e : Element} (hi : i.element? history = some e)
    (hv : ∀ ref, i.verdict ref = none) (hb : ∀ k, i.begun k = []) {lines : Array Text}
    (hl : lines.toList = literals (history ++ [i])) : Records (history ++ [i]) (Web.push { w with lines } e) := by
  have ht : Web.Tidy { w with lines } := ⟨h.tidy.nodup, h.tidy.defined⟩
  refine ⟨ht.push e, hl, fun k => ?_, fun ref => ?_, fun ref => ?_⟩
  · rw [Web.names_push ht, mentions_snoc, hb, List.append_nil]
    exact h.names k
  · rw [isOpenAfter_snoc, hv]
    exact h.opened ref
  · rw [Web.find?_push ht, mentions_snoc, hb, List.append_nil, received_snoc]
    simp only [h.entity ref, h.opened ref]
    by_cases ho : isOpenAfter ref history
    · simp [ho, mem_mentions_of_isOpenAfter ho, hi, Entity.append]
    · simp [ho]

/-- A directive that begins names. A name that was not defined has received nothing. -/
theorem openNames (h : Records history w) (k : Kind) (names : List Text) :
    Records (history ++ [.opened k names]) (w.openNames k names) := by
  have hr : (w.openNames k names).repository = w.repository.defineAll k names := rfl
  have hl : literals (history ++ [.opened k names]) = literals history := by
    rw [literals_snoc]; exact List.append_nil _
  have hm (ref : Ref) : ref.name ∈ mentions ref.kind (history ++ [.opened k names]) ↔
      ref.name ∈ mentions ref.kind history ∨ ref.kind = k ∧ ref.name ∈ names := by
    rw [mentions_snoc, List.mem_append, Item.begun]
    by_cases hk : ref.kind = k
    · simp [hk]
    · simp [hk, Ne.symm hk]
  refine ⟨h.tidy.openNames k names, h.lines.trans hl.symm, fun l => ?_, fun ref => ?_, fun ref => ?_⟩
  · rw [hr, Repository.names_defineAll, mentions_snoc, h.names l]
    by_cases hl : l = k
    · rw [if_pos hl, Item.begun, if_pos hl.symm, addNames_eraseDups]
    · rw [if_neg hl, Item.begun, if_neg (Ne.symm hl), List.append_nil]
  · rw [Web.get_opened_openNames, isOpenAfter_snoc, Item.verdict]
    by_cases hk : ref.kind = k
    · rw [if_pos hk, mem_addNames, h.opened ref]
      by_cases hn : ref.name ∈ names <;> simp [hk, hn]
    · rw [if_neg hk, if_neg (fun hc => hk hc.1.symm)]
      exact h.opened ref
  · have hs : received ref (history ++ [.opened k names]) = received ref history := by
      rw [received_snoc]; simp [Item.element?]
    rw [hr, Repository.find?_defineAll, hs, h.entity ref]
    by_cases hd : ref.name ∈ mentions ref.kind history
    · simp [hm ref, hd]
    · rw [received_of_not_mem_mentions hd]
      by_cases hn : ref.kind = k ∧ ref.name ∈ names
      · rw [if_pos hn, if_neg hd, if_pos ((hm ref).mpr (Or.inr hn))]
        rfl
      · rw [if_neg hn, if_neg hd, if_neg (fun hc => ((hm ref).mp hc).elim hd hn)]

/-- A directive that ends names. -/
theorem closeNames (h : Records history w) (k : Kind) (names : List Text) :
    Records (history ++ [.closed k names]) (w.closeNames k names) := by
  have hl : literals (history ++ [.closed k names]) = literals history := by
    rw [literals_snoc]; exact List.append_nil _
  have hm (l : Kind) : mentions l (history ++ [.closed k names]) = mentions l history := by
    rw [mentions_snoc]; exact List.append_nil _
  refine ⟨h.tidy.closeNames k names, h.lines.trans hl.symm, fun l => ?_, fun ref => ?_, fun ref => ?_⟩
  · rw [hm]
    exact h.names l
  · rw [Web.get_opened_closeNames, isOpenAfter_snoc, Item.verdict]
    by_cases hk : ref.kind = k
    · rw [if_pos hk, List.mem_filter, h.opened ref]
      by_cases hn : ref.name ∈ names <;> simp [hk, hn]
    · rw [if_neg hk, if_neg (fun hc => hk hc.1.symm)]
      exact h.opened ref
  · have hs : received ref (history ++ [.closed k names]) = received ref history := by
      rw [received_snoc]; simp [Item.element?]
    rw [hm, hs]
    exact h.entity ref

/-- One more item. -/
theorem enact (h : Records history w) (i : Item) : Records (history ++ [i]) (i.enact w) := by
  cases i with
  | literal text =>
    refine h.push (e := .line w.lines.size) ?_ (fun _ => rfl) (fun _ => rfl) ?_
    · rw [Item.element?, ← h.lines, Array.length_toList]
    · rw [Array.toList_push, h.lines, literals_snoc]
      rfl
  | use u =>
    refine h.push (e := .use u) rfl (fun _ => rfl) (fun _ => rfl) ?_
    rw [literals_snoc, h.lines]
    exact (List.append_nil _).symm
  | opened k names => exact h.openNames k names
  | closed k names => exact h.closeNames k names
  | requested r =>
    have hl : literals (history ++ [.requested r]) = literals history := by
      rw [literals_snoc]; exact List.append_nil _
    refine ⟨⟨h.tidy.nodup, h.tidy.defined⟩, h.lines.trans hl.symm, fun l => ?_, fun ref => ?_, fun ref => ?_⟩
    · rw [mentions_snoc, show (Item.requested r).begun l = [] from rfl, List.append_nil]
      exact h.names l
    · rw [isOpenAfter_snoc]
      exact h.opened ref
    · rw [mentions_snoc, received_snoc]
      exact (h.entity ref).trans (by simp [Item.begun, Item.element?])

/-- Any number of items. -/
theorem replay (h : Records history w) (items : List Item) : Records (history ++ items) (w.replay items) := by
  induction items generalizing history w with
  | nil => rw [List.append_nil]; exact h
  | cons i items ih =>
    have ih := ih (h.enact i)
    rw [List.append_assoc, List.singleton_append] at ih
    exact ih

end Records

/-- **The fan-out law.** After any reading calls on an empty web, whatever became of them, their history says what the
web holds: the stored lines, the names that are defined and their order, and the elements of every reference. -/
theorem read_fan_out (settings : Settings) (readings : List Reading) :
    let w := Web.read settings readings .empty
    let history := Reading.history settings {} readings
    w.lines.toList = literals history ∧
    (∀ ref : Ref, w.repository.has ref ↔ ∃ names, .opened ref.kind names ∈ history ∧ ref.name ∈ names) ∧
    (∀ k, w.repository.names k = (mentions k history).eraseDups) ∧
    (∀ ref e, w.repository.find? ref = some e → e.elements.toList = received ref history) := by
  intro w history
  obtain ⟨c, hc⟩ := Web.read_eq settings readings (w := .empty) rfl
  have h : Records history (Web.empty.replay history) := Records.empty.replay history
  have hw : w = (Web.empty.replay history).under c := hc
  clear_value w
  subst hw
  refine ⟨h.lines, fun ref => ?_, h.names, fun ref e he => ?_⟩
  · rw [Repository.has_iff]
    have hn : ref.name ∈ (Web.empty.replay history).repository.names ref.kind ↔
        ref.name ∈ mentions ref.kind history := by
      rw [h.names, List.mem_eraseDups]
    exact hn.trans (mem_mentions_iff ref history)
  · have hf := h.entity ref
    rw [show (Web.empty.replay history).repository.find? ref = some e from he] at hf
    split at hf
    · rw [Option.some.inj hf]
    · exact absurd hf (by simp)

end Literate
