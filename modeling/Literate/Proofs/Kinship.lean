import Literate.Failure
import Mathlib.Logic.Relation

/-!
# Kinship of failures

Failures are made one after another, each from failures that are there already (`Making`): some found a family of their
own, some come from elsewhere, some are another failure with a new cause or with more attributes, and some are what is
adopted. Every failure that is made gets a number, and the number tells it apart (`Accounted.same`): no other failure
has it, whatever its layers are.

The main statement is `isA_kinship`: one failure is another if and only if, going back from cause to cause, it comes to
that failure itself or to one of the same family. From this follows what causes and attributes do to the matching of
failures, and nothing that is made later changes what was made before (`makeFrom_append`).
-/

namespace Literate

open Text Log

namespace Failure

/-! ## Causes -/

/-- Going back from cause to cause, a failure comes to another, or is it. -/
def ComesFrom : Failure → Failure → Prop := Relation.ReflTransGen fun f c => f.cause = some c

section Causes

variable {f g t : Failure}

theorem comesFrom_iff : f.ComesFrom g ↔ f = g ∨ ∃ c, f.cause = some c ∧ c.ComesFrom g :=
  Relation.ReflTransGen.cases_head_iff

/-- A failure matches by its outermost layer, or its cause does. -/
theorem isA_iff_cause : f.isA t ↔ layerMatches f.head t.head ∨ ∃ c, f.cause = some c ∧ c.isA t := by
  obtain ⟨head, causes⟩ := f
  cases causes with
  | nil => simp [isA, layers, cause]
  | cons c cs => simp [isA, layers, cause]

/-- A failure matches if one that it comes from matches by its outermost layer. -/
theorem isA_iff_comesFrom : f.isA t ↔ ∃ x, f.ComesFrom x ∧ layerMatches x.head t.head := by
  obtain ⟨head, causes⟩ := f
  induction causes generalizing head with
  | nil =>
    rw [isA_iff_cause]
    constructor
    · rintro (h | ⟨c, hc, -⟩)
      · exact ⟨_, .refl, h⟩
      · exact nomatch hc
    · rintro ⟨x, hx, h⟩
      rcases comesFrom_iff.mp hx with rfl | ⟨c, hc, -⟩
      · exact .inl h
      · exact nomatch hc
  | cons c cs ih =>
    have hcause : cause ⟨head, c :: cs⟩ = some ⟨c, cs⟩ := rfl
    rw [isA_iff_cause, hcause]
    constructor
    · rintro (h | ⟨_, ⟨⟩, h⟩)
      · exact ⟨_, .refl, h⟩
      · obtain ⟨x, hx, hmatch⟩ := (ih c).mp h
        exact ⟨x, .head hcause hx, hmatch⟩
    · rintro ⟨x, hx, h⟩
      rcases comesFrom_iff.mp hx with rfl | ⟨_, hc, hx⟩
      · exact .inl h
      · obtain rfl := Option.some.inj (hcause.symm.trans hc)
        exact .inr ⟨_, rfl, (ih c).mpr ⟨x, hx, h⟩⟩

theorem cause_wrap (f : Failure) (c : Option Failure) (n : Nat) : (f.wrap c n).cause = c := by
  cases c <;> rfl

theorem cause_withAttrs (f : Failure) (attrs : List Attr) (n : Nat) : (f.withAttrs attrs n).cause = f.cause := rfl

end Causes

/-! ## Families -/

/-- The first failure of a family, which has the number of the family. -/
def founder (n : Nat) (message : Text) : Failure := ⟨.own n (some (.founded n)) message [], []⟩

/-- A failure is another one after causes and attributes were put to it; these attributes, in this order. -/
inductive Derives (base : Failure) : List Attr → Failure → Prop
  | self : Derives base [] base
  | wrap {attrs : List Attr} {f : Failure} (cause : Option Failure) (n : Nat) :
      Derives base attrs f → Derives base attrs (f.wrap cause n)
  | withAttrs {attrs : List Attr} {f : Failure} (more : List Attr) (n : Nat) :
      Derives base attrs f → Derives base (attrs ++ more) (f.withAttrs more n)

/-- The head of a failure of this library after a cause or attributes were put to it. -/
theorem head_wrap {f : Failure} {n : Nat} {l : Option Lineage} {m : Text} {as : List Attr} (h : f.head = .own n l m as)
    (cause : Option Failure) (k : Nat) : (f.wrap cause k).head = .own k l m as := by
  simp only [wrap, h]

theorem head_withAttrs {f : Failure} {n : Nat} {l : Option Lineage} {m : Text} {as : List Attr}
    (h : f.head = .own n l m as) (more : List Attr) (k : Nat) :
    (f.withAttrs more k).head = .own k l m (as ++ more) := by
  simp only [withAttrs, h]

/-- What is derived from a founder is of its family, and has its message and the attributes that were put to it. -/
theorem Derives.head {n : Nat} {m : Text} {attrs : List Attr} {f : Failure} (h : (founder n m).Derives attrs f) :
    ∃ k, f.head = .own k (some (.founded n)) m attrs := by
  induction h with
  | self => exact ⟨n, rfl⟩
  | wrap cause k _ ih =>
    obtain ⟨_, hf⟩ := ih
    exact ⟨k, head_wrap hf cause k⟩
  | withAttrs more k _ ih =>
    obtain ⟨_, hf⟩ := ih
    exact ⟨k, head_withAttrs hf more k⟩

theorem Derives.lineage {n : Nat} {m : Text} {attrs : List Attr} {f : Failure} (h : (founder n m).Derives attrs f) :
    f.head.lineage = some (.founded n) := by
  obtain ⟨k, hf⟩ := h.head
  rw [hf, Layer.lineage]

/-- Two failures are of one family: both are derived from a founder among some failures. -/
def Kin (made : List Failure) (f g : Failure) : Prop :=
  ∃ n m, founder n m ∈ made ∧ (∃ attrs, (founder n m).Derives attrs f) ∧ ∃ attrs, (founder n m).Derives attrs g

/-! ## Making failures -/

/-- How one failure is made. Failures that it is made from are given by their places among those that are there. -/
inductive Making where
  /-- The first failure of a new family. -/
  | found (message : Text)
  /-- A failure from elsewhere. -/
  | hear (message : Text)
  /-- A failure of this library with another cause, or with none. -/
  | wrap (on : Nat) (cause : Option Nat)
  /-- A failure of this library with more attributes. -/
  | attach (on : Nat) (attrs : List Attr)
  /-- What is adopted of any failure, or of none. -/
  | adopt (on : Option Nat)

/-- The failure of this library at a place. -/
def own? (made : List Failure) (on : Nat) : Option Failure := made[on]?.filter (·.head.isOwn)

/-- The failure that is made; none if there is no failure at one of the places. -/
def Making.make? (made : List Failure) (m : Making) : Option Failure :=
  let n := made.length + 1
  match m with
  | found message => some (founder n message)
  | hear message => some ⟨.foreign n message, []⟩
  | wrap on none => (own? made on).map (·.wrap none n)
  | wrap on (some place) => (own? made on).bind fun f => made[place]?.map fun c => f.wrap (some c) n
  | attach on attrs => (own? made on).map (·.withAttrs attrs n)
  | adopt none => some ⟨.own n none [] [], []⟩
  | adopt (some place) => made[place]?.map (·.adopt n)

/-- All failures after some are made, one after another. -/
def makeFrom (made : List Failure) : List Making → Option (List Failure)
  | [] => some made
  | m :: ms => (m.make? made).bind fun f => makeFrom (made ++ [f]) ms

/-- All failures that are made, one after another, where there is none before. -/
def makeAll (ms : List Making) : Option (List Failure) := makeFrom [] ms

theorem makeFrom_append (made : List Failure) (ms more : List Making) :
    makeFrom made (ms ++ more) = (makeFrom made ms).bind (makeFrom · more) := by
  induction ms generalizing made with
  | nil => rfl
  | cons m ms ih =>
    rw [List.cons_append, makeFrom, makeFrom, Option.bind_assoc]
    exact Option.bind_congr fun f _ => ih (made ++ [f])

/-- What is made comes after what was there, and changes nothing of it. -/
theorem prefix_of_makeFrom {made made' : List Failure} {ms : List Making} (h : makeFrom made ms = some made') :
    made <+: made' := by
  induction ms generalizing made with
  | nil =>
    obtain rfl := Option.some.inj h
    exact List.prefix_rfl
  | cons m ms ih =>
    obtain ⟨f, -, h⟩ := Option.bind_eq_some_iff.mp h
    exact (List.prefix_append made [f]).trans (ih h)

/-! ## Numbers -/

/-- What the numbers of failures that were made tell. -/
structure Accounted (made : List Failure) : Prop where
  serial_le : ∀ f ∈ made, f.head.serial ≤ made.length
  /-- A failure is told apart by its number. -/
  same : ∀ f ∈ made, ∀ g ∈ made, f.head.serial = g.head.serial → f = g
  /-- Causes were made as well. -/
  cause : ∀ f ∈ made, ∀ c, f.cause = some c → c ∈ made
  /-- What comes from elsewhere has no cause. -/
  causes : ∀ f ∈ made, f.head.isOwn = false → f.causes = []
  /-- What is of a family is derived from its founder. -/
  family : ∀ f ∈ made, ∀ l, f.head.lineage = some l →
    ∃ n m attrs, l = .founded n ∧ founder n m ∈ made ∧ (founder n m).Derives attrs f

/-- What may be made after other failures: it is new, and made of them. -/
structure Novel (made : List Failure) (f : Failure) : Prop where
  serial : f.head.serial = made.length + 1
  cause : ∀ c, f.cause = some c → c ∈ made
  causes : f.head.isOwn = false → f.causes = []
  family : ∀ l, f.head.lineage = some l →
    ∃ n m attrs, l = .founded n ∧ founder n m ∈ made ++ [f] ∧ (founder n m).Derives attrs f

namespace Accounted

variable {made : List Failure} {f g t : Failure}

theorem empty : Accounted [] where
  serial_le _ hf := absurd hf List.not_mem_nil
  same _ hf := absurd hf List.not_mem_nil
  cause _ hf := absurd hf List.not_mem_nil
  causes _ hf := absurd hf List.not_mem_nil
  family _ hf := absurd hf List.not_mem_nil

/-- What is new is not there yet. -/
theorem notMem_of_novel (h : Accounted made) (hf : Novel made f) : f ∉ made := by
  intro hmem
  have hle := h.serial_le f hmem
  have hserial := hf.serial
  omega

theorem snoc (h : Accounted made) (hf : Novel made f) : Accounted (made ++ [f]) where
  serial_le g hg := by
    simp only [List.mem_append, List.mem_singleton] at hg
    rw [List.length_append, List.length_singleton]
    rcases hg with hg | rfl
    · have hle := h.serial_le g hg
      omega
    · exact Nat.le_of_eq hf.serial
  same g hg t ht heq := by
    simp only [List.mem_append, List.mem_singleton] at hg ht
    have hserial := hf.serial
    rcases hg with hg | hg <;> rcases ht with ht | ht
    · exact h.same g hg t ht heq
    · have hle := h.serial_le g hg
      rw [ht] at heq
      omega
    · have hle := h.serial_le t ht
      rw [hg] at heq
      omega
    · exact hg.trans ht.symm
  cause g hg c hc := by
    simp only [List.mem_append, List.mem_singleton] at hg
    refine List.mem_append_left _ ?_
    rcases hg with hg | rfl
    · exact h.cause g hg c hc
    · exact hf.cause c hc
  causes g hg hown := by
    simp only [List.mem_append, List.mem_singleton] at hg
    rcases hg with hg | rfl
    · exact h.causes g hg hown
    · exact hf.causes hown
  family g hg l hl := by
    simp only [List.mem_append, List.mem_singleton] at hg
    rcases hg with hg | rfl
    · obtain ⟨n, m, attrs, hfounded, hmem, hderives⟩ := h.family g hg l hl
      exact ⟨n, m, attrs, hfounded, List.mem_append_left _ hmem, hderives⟩
    · exact hf.family l hl

/-- What was there already may be there once more. -/
theorem again (h : Accounted made) (hf : f ∈ made) : Accounted (made ++ [f]) := by
  have hmem : ∀ g, g ∈ made ++ [f] ↔ g ∈ made := by
    intro g
    rw [List.mem_append, List.mem_singleton]
    exact ⟨fun hg => hg.elim id fun heq => heq ▸ hf, .inl⟩
  constructor
  · intro g hg
    have hle := h.serial_le g ((hmem g).mp hg)
    rw [List.length_append]
    omega
  · exact fun g hg t ht => h.same g ((hmem g).mp hg) t ((hmem t).mp ht)
  · exact fun g hg c hc => (hmem c).mpr (h.cause g ((hmem g).mp hg) c hc)
  · exact fun g hg => h.causes g ((hmem g).mp hg)
  · intro g hg l hl
    obtain ⟨n, m, attrs, hfounded, hfounder, hderives⟩ := h.family g ((hmem g).mp hg) l hl
    exact ⟨n, m, attrs, hfounded, (hmem _).mpr hfounder, hderives⟩

/-- What is made of failures of this library is of the family of the failure that it is made of. -/
theorem family_of_derives (h : Accounted made) (hf : f ∈ made) {x : Failure}
    (hlineage : x.head.lineage = f.head.lineage)
    (hx : ∀ base attrs, Derives base attrs f → ∃ more, Derives base more x) :
    ∀ l, x.head.lineage = some l →
      ∃ n m attrs, l = .founded n ∧ founder n m ∈ made ++ [x] ∧ (founder n m).Derives attrs x := by
  intro l hl
  obtain ⟨n, m, attrs, hfounded, hmem, hderives⟩ := h.family f hf l (hlineage ▸ hl)
  obtain ⟨more, hmore⟩ := hx _ _ hderives
  exact ⟨n, m, more, hfounded, List.mem_append_left _ hmem, hmore⟩

theorem own?_eq_some {on : Nat} (h : own? made on = some f) :
    f ∈ made ∧ ∃ n l m as, f.head = .own n l m as := by
  obtain ⟨hplace, hown⟩ := Option.filter_eq_some_iff.mp h
  refine ⟨List.mem_of_getElem? hplace, ?_⟩
  cases hhead : f.head with
  | foreign n m =>
    rw [hhead] at hown
    exact absurd hown Bool.false_ne_true
  | own n l m as => exact ⟨n, l, m, as, rfl⟩

/-- A failure of this library with another cause is new. -/
theorem novel_wrap (h : Accounted made) {on : Nat} (hf : own? made on = some f) {cause : Option Failure}
    (hc : ∀ c ∈ cause, c ∈ made) : Novel made (f.wrap cause (made.length + 1)) := by
  obtain ⟨hmem, n, l, m, as, hhead⟩ := own?_eq_some hf
  have hwrapped := head_wrap hhead cause (made.length + 1)
  constructor
  · rw [hwrapped, Layer.serial]
  · intro c hcause
    rw [cause_wrap] at hcause
    exact hc c hcause
  · intro hown
    rw [hwrapped] at hown
    exact absurd hown (Bool.false_ne_true ∘ Eq.symm)
  · refine h.family_of_derives hmem ?_ fun base attrs hd => ⟨attrs, hd.wrap cause _⟩
    rw [hwrapped, hhead, Layer.lineage, Layer.lineage]

/-- A failure of this library with more attributes is new. -/
theorem novel_withAttrs (h : Accounted made) {on : Nat} (hf : own? made on = some f) (more : List Attr) :
    Novel made (f.withAttrs more (made.length + 1)) := by
  obtain ⟨hmem, n, l, m, as, hhead⟩ := own?_eq_some hf
  have hattached := head_withAttrs hhead more (made.length + 1)
  constructor
  · rw [hattached, Layer.serial]
  · exact fun c hcause => h.cause f hmem c hcause
  · intro hown
    rw [hattached] at hown
    exact absurd hown (Bool.false_ne_true ∘ Eq.symm)
  · refine h.family_of_derives hmem ?_ fun base attrs hd => ⟨attrs ++ more, hd.withAttrs more _⟩
    rw [hattached, hhead, Layer.lineage, Layer.lineage]

/-- What is adopted of a failure is the failure itself, or new if it comes from elsewhere. -/
theorem adopt_cases (h : Accounted made) (hf : f ∈ made) :
    f.adopt (made.length + 1) = f ∨ Novel made (f.adopt (made.length + 1)) := by
  obtain ⟨head, causes⟩ := f
  cases head with
  | own n l m as => exact .inl rfl
  | foreign n m =>
    right
    have hnone : causes = [] := h.causes _ hf rfl
    subst hnone
    constructor
    · rfl
    · intro c hc
      obtain rfl := Option.some.inj hc
      exact hf
    · exact fun hown => nomatch hown
    · exact fun l hl => nomatch hl

/-- **What is made is new**, or a failure of this library that was adopted. -/
theorem make? (h : Accounted made) {m : Making} (hm : m.make? made = some f) :
    Novel made f ∨ ∃ place, m = .adopt (some place) ∧ made[place]? = some f := by
  cases m with
  | found message =>
    obtain rfl := Option.some.inj hm
    refine .inl ⟨rfl, (fun c hc => nomatch hc), (fun _ => rfl), ?_⟩
    rintro l ⟨⟩
    exact ⟨_, message, [], rfl, List.mem_append_right _ (List.mem_singleton_self _), .self⟩
  | hear message =>
    obtain rfl := Option.some.inj hm
    exact .inl ⟨rfl, (fun c hc => nomatch hc), (fun _ => rfl), (fun l hl => nomatch hl)⟩
  | wrap on place =>
    left
    cases place with
    | none =>
      obtain ⟨g, hg, rfl⟩ := Option.map_eq_some_iff.mp hm
      exact h.novel_wrap hg fun c hc => nomatch hc
    | some place =>
      obtain ⟨g, hg, hm⟩ := Option.bind_eq_some_iff.mp hm
      obtain ⟨c, hc, rfl⟩ := Option.map_eq_some_iff.mp hm
      refine h.novel_wrap hg ?_
      rintro _ ⟨⟩
      exact List.mem_of_getElem? hc
  | attach on attrs =>
    obtain ⟨g, hg, rfl⟩ := Option.map_eq_some_iff.mp hm
    exact .inl (h.novel_withAttrs hg attrs)
  | adopt on =>
    cases on with
    | none =>
      obtain rfl := Option.some.inj hm
      exact .inl ⟨rfl, (fun c hc => nomatch hc), (fun _ => rfl), (fun l hl => nomatch hl)⟩
    | some place =>
      obtain ⟨g, hg, rfl⟩ := Option.map_eq_some_iff.mp hm
      have hmem := List.mem_of_getElem? hg
      rcases h.adopt_cases hmem with heq | hnovel
      · exact .inr ⟨place, rfl, heq.symm ▸ hg⟩
      · exact .inl hnovel

theorem makeFrom (h : Accounted made) {ms : List Making} {made' : List Failure}
    (hm : Failure.makeFrom made ms = some made') : Accounted made' := by
  induction ms generalizing made with
  | nil =>
    obtain rfl := Option.some.inj hm
    exact h
  | cons m ms ih =>
    obtain ⟨f, hf, hm⟩ := Option.bind_eq_some_iff.mp hm
    rcases h.make? hf with hnovel | ⟨_, -, hplace⟩
    · exact ih (h.snoc hnovel) hm
    · exact ih (h.again (List.mem_of_getElem? hplace)) hm

/-! ## Matching -/

theorem comesFrom (h : Accounted made) (hf : f ∈ made) (hfg : f.ComesFrom g) : g ∈ made := by
  induction hfg with
  | refl => exact hf
  | tail _ hcause ih => exact h.cause _ ih _ hcause

/-- Two failures have a common lineage if and only if they are of one family. -/
theorem lineage_eq_iff (h : Accounted made) (hf : f ∈ made) (ht : t ∈ made) :
    f.head.lineage.isSome ∧ f.head.lineage = t.head.lineage ↔ Kin made f t := by
  constructor
  · rintro ⟨hsome, heq⟩
    obtain ⟨l, hl⟩ := Option.isSome_iff_exists.mp hsome
    obtain ⟨n, m, attrs, rfl, hmem, hderives⟩ := h.family f hf l hl
    obtain ⟨n', m', attrs', hn, hmem', hderives'⟩ := h.family t ht _ (heq ▸ hl)
    obtain rfl : n = n' := Lineage.founded.inj hn
    have hsame : founder n m = founder n m' := h.same _ hmem _ hmem' rfl
    exact ⟨n, m, hmem, ⟨attrs, hderives⟩, attrs', hsame ▸ hderives'⟩
  · rintro ⟨n, m, -, ⟨attrs, hf⟩, attrs', ht⟩
    rw [hf.lineage, ht.lineage]
    exact ⟨rfl, rfl⟩

/-- A layer matches another if both are of the same failure, or of failures of one family. -/
theorem layerMatches_iff (h : Accounted made) (hf : f ∈ made) (ht : t ∈ made) :
    layerMatches f.head t.head ↔ f = t ∨ Kin made f t := by
  rw [← h.lineage_eq_iff hf ht]
  simp only [layerMatches, Bool.or_eq_true, Bool.and_eq_true, beq_iff_eq]
  constructor
  · rintro (⟨hserial, -⟩ | hlineage)
    · exact .inl (h.same f hf t ht hserial)
    · exact .inr hlineage
  · rintro (rfl | hlineage)
    · exact .inl ⟨rfl, rfl⟩
    · exact .inr hlineage

/-- What is derived from a founder matches the family, and what its cause matches. -/
theorem isA_iff_of_derives (h : Accounted made) {n : Nat} {m : Text} (hs : founder n m ∈ made) (hf : f ∈ made)
    {attrs : List Attr} (hd : (founder n m).Derives attrs f) (ht : t ∈ made) :
    f.isA t ↔ (∃ more, (founder n m).Derives more t) ∨ ∃ c, f.cause = some c ∧ c.isA t := by
  have hfamily : f = t ∨ Kin made f t ↔ ∃ more, (founder n m).Derives more t := by
    constructor
    · rintro (rfl | ⟨n', m', hs', ⟨more, hf'⟩, hmore⟩)
      · exact ⟨attrs, hd⟩
      · have hn : n = n' := Lineage.founded.inj (Option.some.inj (hd.lineage.symm.trans hf'.lineage))
        subst hn
        have hsame : founder n m = founder n m' := h.same _ hs _ hs' rfl
        rw [hsame]
        exact hmore
    · exact fun hmore => .inr ⟨n, m, hs, ⟨attrs, hd⟩, hmore⟩
  rw [isA_iff_cause, h.layerMatches_iff hf ht, hfamily]

/-- A failure is another one if it comes to that one, or to one of its family. -/
theorem isA_iff (h : Accounted made) (hf : f ∈ made) (ht : t ∈ made) :
    f.isA t ↔ ∃ x ∈ made, f.ComesFrom x ∧ (x = t ∨ Kin made x t) := by
  rw [isA_iff_comesFrom]
  constructor
  · rintro ⟨x, hfx, hmatch⟩
    have hx := h.comesFrom hf hfx
    exact ⟨x, hx, hfx, (h.layerMatches_iff hx ht).mp hmatch⟩
  · rintro ⟨x, hx, hfx, hmatch⟩
    exact ⟨x, hfx, (h.layerMatches_iff hx ht).mpr hmatch⟩

/-- More attributes do not change what a failure of a family is. -/
theorem isA_withAttrs (h : Accounted made) {n : Nat} {m : Text} (hs : founder n m ∈ made) (hf : f ∈ made)
    {attrs : List Attr} (hd : (founder n m).Derives attrs f) {more : List Attr} {k : Nat}
    (hmade : f.withAttrs more k ∈ made) (ht : t ∈ made) : (f.withAttrs more k).isA t ↔ f.isA t := by
  rw [h.isA_iff_of_derives hs hmade (hd.withAttrs more k) ht, h.isA_iff_of_derives hs hf hd ht, cause_withAttrs]

/-- With another cause, a failure of a family is what the family is and what the cause is. -/
theorem isA_wrap (h : Accounted made) {n : Nat} {m : Text} (hs : founder n m ∈ made) {attrs : List Attr}
    (hd : (founder n m).Derives attrs f) {cause : Option Failure} {k : Nat} (hmade : f.wrap cause k ∈ made)
    (ht : t ∈ made) :
    (f.wrap cause k).isA t ↔ (∃ more, (founder n m).Derives more t) ∨ ∃ c, cause = some c ∧ c.isA t := by
  rw [h.isA_iff_of_derives hs hmade (hd.wrap cause k) ht, cause_wrap]

end Accounted

/-- **Failures are matched by their families.** Whatever failures are made, one after another, one of them is another if
and only if, going back from cause to cause, it comes to that one itself or to one of the same family.

So a failure that was derived from a founder, by causes and attributes that were put to it, is everything that was
derived from that founder; more attributes do not change what it is; with another cause it is the family and what the
cause is; and its attributes are those that were put to it, in this order. What is made later changes nothing of what is
there, and is none of it, unless a failure of this library is adopted. -/
theorem isA_kinship {steps : List Making} {made : List Failure} (hmade : makeAll steps = some made) :
    (∀ f ∈ made, ∀ t ∈ made, f.isA t ↔ ∃ x ∈ made, f.ComesFrom x ∧ (x = t ∨ Kin made x t)) ∧
    (∀ n m, founder n m ∈ made → ∀ f ∈ made, ∀ attrs, (founder n m).Derives attrs f →
      f.head.message = m ∧ f.attached = attrs ∧
      (∀ t ∈ made, ∀ more, (founder n m).Derives more t → f.isA t) ∧
      (∀ more k, f.withAttrs more k ∈ made → ∀ t ∈ made, (f.withAttrs more k).isA t ↔ f.isA t) ∧
      (∀ cause k, f.wrap cause k ∈ made → ∀ t ∈ made,
        (f.wrap cause k).isA t ↔ (∃ more, (founder n m).Derives more t) ∨ ∃ c, cause = some c ∧ c.isA t)) ∧
    (∀ more made', makeAll (steps ++ more) = some made' → made <+: made') ∧
    (∀ (m : Making) (f : Failure), m.make? made = some f →
      f ∉ made ∨ ∃ place, m = .adopt (some place) ∧ made[place]? = some f) := by
  have h : Accounted made := Accounted.empty.makeFrom hmade
  refine ⟨fun f hf t ht => h.isA_iff hf ht, ?_, ?_, ?_⟩
  · intro n m hs f hf attrs hd
    obtain ⟨k, hhead⟩ := hd.head
    refine ⟨?_, ?_, ?_, ?_, ?_⟩
    · rw [hhead, Layer.message]
    · rw [attached, hhead]
    · intro t ht more hmore
      exact (h.isA_iff_of_derives hs hf hd ht).mpr (.inl ⟨more, hmore⟩)
    · intro more k hmem t ht
      exact h.isA_withAttrs hs hf hd hmem ht
    · intro cause k hmem t ht
      exact h.isA_wrap hs hd hmem ht
  · intro more made' hlater
    rw [makeAll, makeFrom_append, ← makeAll, hmade, Option.bind_some] at hlater
    exact prefix_of_makeFrom hlater
  · intro m f hm
    rcases h.make? hm with hnovel | hadopted
    · exact .inl (h.notMem_of_novel hnovel)
    · exact .inr hadopted

/-- A failure of one family is caused by one of another family, which was caused by a message from elsewhere and given
an attribute; both are adopted, and the message as well. -/
def kinshipSteps : List Making :=
  [.found "a", .hear "x", .wrap 0 (some 1), .attach 2 [Attr.text "k" "v"], .found "b", .wrap 4 (some 3),
    .adopt (some 5), .adopt (some 1), .wrap 7 none]

/-- What was adopted comes to the family of its cause, which was given one attribute. -/
theorem isA_kinship_adopted :
    ∃ made f t g, makeAll kinshipSteps = some made ∧ made.length = 9 ∧
      made[6]? = some f ∧ made[0]? = some t ∧ made[3]? = some g ∧
      (∃ x ∈ made, f.ComesFrom x ∧ (x = t ∨ Kin made x t)) ∧ g.attached = [Attr.text "k" "v"] := by
  have hmade : makeAll kinshipSteps = some _ := rfl
  refine ⟨_, _, _, _, hmade, rfl, rfl, rfl, rfl, ?_, ?_⟩
  · exact ((isA_kinship hmade).1 _ (List.mem_of_getElem? (i := 6) rfl) _ (List.mem_of_getElem? (i := 0) rfl)).mp rfl
  · have hd : (founder 1 "a").Derives [Attr.text "k" "v"]
        (((founder 1 "a").wrap (some ⟨.foreign 2 "x", []⟩) 3).withAttrs [Attr.text "k" "v"] 4) :=
      (Derives.self.wrap _ 3).withAttrs [Attr.text "k" "v"] 4
    exact ((isA_kinship hmade).2.1 1 "a" (List.mem_of_getElem? (i := 0) rfl) _
      (List.mem_of_getElem? (i := 3) rfl) _ hd).2.1

end Failure

end Literate
