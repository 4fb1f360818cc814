import Literate.Proofs.Inclusion

/-!
# What is read of one document

While a document is read, others may be put on top of it and be taken away again. A *passage* is a stretch of steps that
never takes the document itself away, with the logical lines that are read of it; the lines of the documents on top do
not count (`Desk.Passage`). Every moment of a call is the end of one passage for each document on the desk
(`exists_passage`), which begins where the document is put on the desk (`Desk.Opens`).

Once reading is given up, it stays so (`leads_stop`), and nothing but chain and region change (`leads_web_of_stop`). So
a call that stops has one step at which it does, and everything is as it was before, apart from what that step does
(`exists_stopping`).
-/

namespace Literate

open Text Log

namespace Desk

/-- Steps from one desk to another that take away no document at or below a height, with the logical lines that are read
at this height, in their order. -/
inductive Passage (settings : Settings) (lib : Library) (height : Nat) (d : Desk) : List LogicalLine → Desk → Prop
  | refl : Passage settings lib height d [] d
  /-- A step of the document itself, which may put another one on top of it. -/
  | own {ls e f} : Passage settings lib height d ls e → e.pages.length = height → e.step? settings lib = some f →
      height ≤ f.pages.length → Passage settings lib height d (ls ++ e.line?.toList) f
  /-- A step of a document on top of it. -/
  | inner {ls e f} : Passage settings lib height d ls e → height < e.pages.length → e.step? settings lib = some f →
      Passage settings lib height d ls f

/-- Where a document begins to be read in a call, and whether it begins inside a region: the outermost document begins
as the web does, and every other one outside. -/
inductive Opens (settings : Settings) (lib : Library) (start : Desk) : Desk → (inRegion : Bool) → Prop
  | outermost : Opens settings lib start start start.session.web.inRegion
  | included {d e} : Leads settings lib start d → d.step? settings lib = some e →
      e.pages.length = d.pages.length + 1 → Opens settings lib start e false

section Heights

variable {settings : Settings} {lib : Library} {d e f : Desk} {height : Nat} {ls : List LogicalLine}

/-- A step takes away one document, or puts one on top, or neither. -/
theorem step?_length (hs : step? settings lib d = some e) :
    d.pages.length = e.pages.length + 1 ∨ e.pages.length = d.pages.length ∨ e.pages.length = d.pages.length + 1 := by
  rcases step?_cases hs with ⟨page, below, stop, hp, rfl, _⟩ |
    ⟨file, n, text, rest, ending, below, hp, _, ⟨fragment, _, rfl⟩ | ⟨l, _, _, rfl⟩⟩
  · exact Or.inl (by rw [hp]; rfl)
  · exact Or.inr (Or.inl (by rw [hp]; rfl))
  · rw [hp]
    unfold readLine
    split
    · rename_i target _
      rcases enter_cases settings lib target l
        (Session.log (d.session.modify fun w => { w with pending := none }) .trace "directive"
          [Attr.text "keyword" Directive.includeFile.label, Attr.text "position" l.position.text])
        (⟨file, n + 1, rest, ending⟩ :: below) with ⟨_, _, _, he, _⟩ | ⟨_, _, _, _, _, he, _⟩
      · exact Or.inr (Or.inl (by rw [he]; rfl))
      · exact Or.inr (Or.inr (by rw [he]; rfl))
    · exact Or.inr (Or.inl rfl)

namespace Passage

theorem leads (h : Passage settings lib height d ls e) : Leads settings lib d e := by
  induction h with
  | refl => exact .refl
  | own _ _ hs _ ih => exact ih.tail hs
  | inner _ _ hs ih => exact ih.tail hs

theorem trans {more : List LogicalLine} (h : Passage settings lib height d ls e)
    (h' : Passage settings lib height e more f) : Passage settings lib height d (ls ++ more) f := by
  induction h' with
  | refl =>
    rw [List.append_nil]
    exact h
  | own _ hheight hs hle ih =>
    rw [← List.append_assoc]
    exact ih.own hheight hs hle
  | inner _ hlt hs ih => exact ih.inner hlt hs

/-- The document stays on the desk. -/
theorem height_le (h : Passage settings lib height d ls e) (hd : height ≤ d.pages.length) :
    height ≤ e.pages.length := by
  induction h with
  | refl => exact hd
  | own _ _ _ hf => exact hf
  | inner _ hlt hs _ =>
    have hlength := step?_length hs
    omega

/-- A passage goes on as long as the document is on the desk. -/
theorem step (h : Passage settings lib height d ls e) (hd : height ≤ d.pages.length)
    (hs : step? settings lib e = some f) (hf : height ≤ f.pages.length) :
    ∃ more, Passage settings lib height d more f := by
  rcases Nat.lt_or_eq_of_le (h.height_le hd) with hlt | heq
  · exact ⟨ls, h.inner hlt hs⟩
  · exact ⟨_, h.own heq.symm hs hf⟩

end Passage

theorem Opens.leads {start : Desk} {b : Bool} (h : Opens settings lib start f b) : Leads settings lib start f := by
  cases h with
  | outermost => exact .refl
  | included hd hs _ => exact hd.tail hs

/-- A document that is put on a desk is on it. -/
theorem Opens.pages_ne_nil {start : Desk} {b : Bool} (h : Opens settings lib start f b) (hstart : start.pages ≠ []) :
    f.pages ≠ [] := by
  cases h with
  | outermost => exact hstart
  | included _ _ hlength =>
    rw [← List.length_pos_iff, hlength]
    exact Nat.succ_pos _

/-- **Each document on the desk has been read by a passage** from where it was put there. -/
theorem exists_passage {start : Desk} (hstart : start.pages.length = 1) (hl : Leads settings lib start d) {height : Nat}
    (hpos : 1 ≤ height) (hle : height ≤ d.pages.length) :
    ∃ f b ls, Opens settings lib start f b ∧ f.pages.length = height ∧ Passage settings lib height f ls d := by
  induction hl generalizing height with
  | refl => exact ⟨start, _, [], .outermost, by omega, .refl⟩
  | @tail d e hd hs ih =>
    rcases Nat.lt_or_ge d.pages.length height with hlt | hge
    · -- the document has just been put on the desk
      have hlength := step?_length hs
      exact ⟨e, false, [], .included hd hs (by omega), by omega, .refl⟩
    · obtain ⟨f, b, ls, hf, hheight, hpassage⟩ := ih hpos hge
      obtain ⟨more, hmore⟩ := hpassage.step (by omega) hs hle
      exact ⟨f, b, more, hf, hheight, hmore⟩

end Heights

/-! ## After reading was given up -/

section Stopping

variable {settings : Settings} {lib : Library} {d e : Desk} {stop : Stop}

/-- Once reading was given up, a step takes away a document, and nothing else. -/
theorem step?_of_stop (hs : step? settings lib d = some e) (hd : d.stop = some stop) :
    ∃ page below, d.pages = page :: below ∧ e = close d.session below (some stop) := by
  rcases step?_cases hs with ⟨page, below, s, hp, rfl, hstop⟩ | ⟨file, n, text, rest, ending, below, _, hnone, _⟩
  · rcases hstop with ⟨hnone, _, _⟩ | hsame
    · exact absurd (hnone.symm.trans hd) (Option.some_ne_none stop).symm
    · exact ⟨page, below, hp, by rw [← hsame, hd]⟩
  · exact absurd (hnone.symm.trans hd) (Option.some_ne_none stop).symm

theorem leads_stop (hl : Leads settings lib d e) (hd : d.stop = some stop) : e.stop = some stop := by
  induction hl with
  | refl => exact hd
  | tail _ hs ih =>
    obtain ⟨_, _, _, rfl⟩ := step?_of_stop hs ih
    rfl

/-- Where reading goes on, it was not given up before. -/
theorem stop_eq_none_of_leads (hl : Leads settings lib d e) (he : e.stop = none) : d.stop = none := by
  cases hd : d.stop with
  | none => rfl
  | some stop => exact absurd (he.symm.trans (leads_stop hl hd)) (Option.some_ne_none stop).symm

/-- From then on a web changes in what decides how lines are read, and in nothing else. -/
theorem leads_web_of_stop (hl : Leads settings lib d e) (hd : d.stop = some stop) :
    e.session.web = d.session.web.under e.session.web.control := by
  induction hl with
  | refl => rfl
  | tail hl hs ih =>
    obtain ⟨_, _, _, rfl⟩ := step?_of_stop hs (leads_stop hl hd)
    simp only [close, Session.modify]
    rw [ih]
    rfl

/-- A call that is given up is given up by one of its steps. -/
theorem exists_stopping (hl : Leads settings lib d e) (hd : d.stop = none) (he : e.stop = some stop) :
    ∃ f g, Leads settings lib d f ∧ f.stop = none ∧ step? settings lib f = some g ∧ g.stop = some stop ∧
      Leads settings lib g e := by
  induction hl using Relation.ReflTransGen.head_induction_on with
  | refl => exact absurd (hd.symm.trans he) (Option.some_ne_none stop).symm
  | @head d f hs hl ih =>
    cases hf : f.stop with
    | none =>
      obtain ⟨g, k, hg, hrest⟩ := ih hf
      exact ⟨g, k, .head hs hg, hrest⟩
    | some s =>
      obtain rfl : s = stop := Option.some.inj ((leads_stop hl hf).symm.trans he)
      exact ⟨d, f, .refl, hd, hs, hf, hl⟩

/-- Steps that lead somewhere else lead there before or after. -/
theorem leads_total {f : Desk} (he : Leads settings lib d e) (hf : Leads settings lib d f) :
    Leads settings lib e f ∨ Leads settings lib f e :=
  Relation.ReflTransGen.total_of_right_unique (fun _ _ _ h h' => Option.some.inj (h.symm.trans h')) he hf

end Stopping

end Desk

end Literate
