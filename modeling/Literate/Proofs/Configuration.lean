import Literate.Config
import Mathlib.Data.List.Nodup

/-!
# What a configuration means

The entries of a mapping are met in any order. What a configuration holds is therefore compared with what it holds when
the entries of all its mappings are met in another order (`Datum.Reordered`). Where keys are different in each mapping,
the order changes no setting, and the settings as a whole are only permuted (`Datum.Reordered.same`). But of several
settings under one key the last counts, and every setting is the last in some order (`exists_reordered_last`).

The main statement is `ofEntries_meaning`: the order makes no difference if and only if settings under the same key are
the same.
-/

namespace Literate

open Text Config

namespace Datum

/-! ## Orders -/

mutual

/-- A datum in which the entries of mappings have another order. -/
inductive Reordered : Datum → Datum → Prop
  | same (d : Datum) : Reordered d d
  | list {xs ys : List Datum} : ReorderedItems xs ys → Reordered (list xs) (list ys)
  | mapping {xs ys : List (Text × Datum)} : ReorderedEntries xs ys → Reordered (mapping xs) (mapping ys)

/-- Items in which the entries of mappings have another order. -/
inductive ReorderedItems : List Datum → List Datum → Prop
  | nil : ReorderedItems [] []
  | cons {d e : Datum} {xs ys : List Datum} : Reordered d e → ReorderedItems xs ys →
      ReorderedItems (d :: xs) (e :: ys)

/-- Entries that have another order, also in the mappings among their values. -/
inductive ReorderedEntries : List (Text × Datum) → List (Text × Datum) → Prop
  | nil : ReorderedEntries [] []
  | cons (key : Text) {d e : Datum} {xs ys : List (Text × Datum)} : Reordered d e → ReorderedEntries xs ys →
      ReorderedEntries ((key, d) :: xs) ((key, e) :: ys)
  | swap (a b : Text × Datum) (xs : List (Text × Datum)) : ReorderedEntries (a :: b :: xs) (b :: a :: xs)
  | trans {xs ys zs : List (Text × Datum)} : ReorderedEntries xs ys → ReorderedEntries ys zs → ReorderedEntries xs zs

end

mutual

/-- All mappings of a datum have different keys. -/
def Distinct : Datum → Prop
  | list items => DistinctItems items
  | mapping entries => (entries.map Prod.fst).Nodup ∧ DistinctEntries entries
  | _ => True

/-- All mappings of items have different keys. -/
def DistinctItems : List Datum → Prop
  | [] => True
  | d :: ds => d.Distinct ∧ DistinctItems ds

/-- All mappings among the values of entries have different keys. -/
def DistinctEntries : List (Text × Datum) → Prop
  | [] => True
  | (_, d) :: rest => d.Distinct ∧ DistinctEntries rest

end

/-! ## What an order cannot change -/

theorem map_fst_pairs (entries : List (Text × Datum)) : (pairs entries).map Prod.fst = entries.map Prod.fst := by
  induction entries with
  | nil => rfl
  | cons e entries ih =>
    obtain ⟨key, d⟩ := e
    simp only [pairs, List.map_cons, ih]

/-- Pairs with different keys are sorted by their keys in one way only. -/
theorem mergeSort_eq_of_perm {xs ys : List (Text × Text)} (h : xs.Perm ys) (hn : (xs.map Prod.fst).Nodup) :
    (xs.mergeSort fun a b => a.1 ≤ b.1) = ys.mergeSort fun a b => a.1 ≤ b.1 := by
  have htrans (a b c : Text × Text) (hab : decide (a.1 ≤ b.1) = true) (hbc : decide (b.1 ≤ c.1) = true) :
      decide (a.1 ≤ c.1) = true :=
    decide_eq_true (List.le_trans (of_decide_eq_true hab) (of_decide_eq_true hbc))
  have htotal (a b : Text × Text) : (decide (a.1 ≤ b.1) || decide (b.1 ≤ a.1)) = true := by
    simpa using List.le_total a.1 b.1
  have hsorted (l : List (Text × Text)) : (l.mergeSort fun a b => a.1 ≤ b.1).Pairwise fun a b => a.1 ≤ b.1 :=
    (List.pairwise_mergeSort htrans htotal l).imp of_decide_eq_true
  refine List.Perm.eq_of_pairwise (fun a b ha hb hab hba => ?_) (hsorted xs) (hsorted ys)
    ((List.mergeSort_perm _ _).trans (h.trans (List.mergeSort_perm _ _).symm))
  have ha : a ∈ xs := (List.mergeSort_perm _ _).mem_iff.mp ha
  have hb : b ∈ xs := h.mem_iff.mpr ((List.mergeSort_perm _ _).mem_iff.mp hb)
  exact List.inj_on_of_nodup_map hn ha hb (List.le_antisymm hab hba)

/-- One datum is another but for the order of its settings. -/
structure Same (d e : Datum) : Prop where
  distinct : e.Distinct
  line : d.line = e.line
  setting : d.setting = e.setting
  leaves : ∀ key, (leaves key d).Perm (leaves key e)

/-- Items are others but for the order of their settings. -/
structure SameItems (xs ys : List Datum) : Prop where
  distinct : DistinctItems ys
  lines : lines xs = lines ys
  settings : settings xs = settings ys

/-- Entries are others but for their order and that of their settings. -/
structure SameEntries (xs ys : List (Text × Datum)) : Prop where
  distinct : DistinctEntries ys
  pairs : (pairs xs).Perm (pairs ys)
  leaves : ∀ parent, (leavesOf parent xs).Perm (leavesOf parent ys)

section Sameness

variable {d e : Datum} {ds es : List Datum} {xs ys zs : List (Text × Datum)}

theorem Same.refl (h : d.Distinct) : d.Same d := ⟨h, rfl, rfl, fun _ => .refl _⟩

theorem Same.list (h : SameItems ds es) : (Datum.list ds).Same (.list es) where
  distinct := h.distinct
  line := by rw [Datum.line, Datum.line, h.lines]
  setting := by rw [Datum.setting, Datum.setting, h.settings]
  leaves key := by
    rw [Config.leaves, Config.leaves, Datum.setting, Datum.setting, h.settings]
    all_goals simp

theorem SameItems.cons (h : d.Same e) (hs : SameItems ds es) : SameItems (d :: ds) (e :: es) where
  distinct := ⟨h.distinct, hs.distinct⟩
  lines := by rw [Datum.lines, Datum.lines, h.line, hs.lines]
  settings := by rw [Datum.settings, Datum.settings, h.setting, hs.settings]

theorem SameEntries.keys (h : SameEntries xs ys) : (xs.map Prod.fst).Perm (ys.map Prod.fst) := by
  rw [← map_fst_pairs, ← map_fst_pairs]
  exact h.pairs.map Prod.fst

/-- The line of a mapping has its entries sorted. -/
theorem Same.mapping (h : SameEntries xs ys) (hn : (xs.map Prod.fst).Nodup) :
    (Datum.mapping xs).Same (.mapping ys) := by
  have hline : (Datum.mapping xs).line = (Datum.mapping ys).line := by
    rw [Datum.line, Datum.line, mergeSort_eq_of_perm h.pairs (by rw [map_fst_pairs]; exact hn)]
  refine ⟨⟨h.keys.nodup_iff.mp hn, h.distinct⟩, hline, ?_, fun key => ?_⟩
  · rw [Datum.setting, Datum.setting, hline]
  · rw [Config.leaves, Config.leaves]
    exact h.leaves key

theorem SameEntries.cons (key : Text) (h : d.Same e) (hs : SameEntries xs ys) :
    SameEntries ((key, d) :: xs) ((key, e) :: ys) where
  distinct := ⟨h.distinct, hs.distinct⟩
  pairs := by
    rw [Datum.pairs, Datum.pairs, h.line]
    exact hs.pairs.cons _
  leaves parent := by
    rw [leavesOf, leavesOf]
    exact (h.leaves _).append (hs.leaves parent)

theorem SameEntries.swap (a b : Text × Datum) (h : DistinctEntries (a :: b :: xs)) :
    SameEntries (a :: b :: xs) (b :: a :: xs) where
  distinct := ⟨h.2.1, h.1, h.2.2⟩
  pairs := .swap _ _ _
  leaves parent := by
    simp only [leavesOf, ← List.append_assoc]
    exact List.perm_append_comm.append_right _

theorem SameEntries.trans (h : SameEntries xs ys) (h' : SameEntries ys zs) : SameEntries xs zs where
  distinct := h'.distinct
  pairs := h.pairs.trans h'.pairs
  leaves parent := (h.leaves parent).trans (h'.leaves parent)

end Sameness

/-- **An order changes nothing but the order of settings**, where keys are different. -/
theorem ReorderedEntries.same {xs ys : List (Text × Datum)} (h : ReorderedEntries xs ys) (hd : DistinctEntries xs) :
    SameEntries xs ys := by
  -- Data, items and entries are reordered together, and the induction is on all three.
  refine @ReorderedEntries.rec (fun d e _ => d.Distinct → d.Same e) (fun ds es _ => DistinctItems ds → SameItems ds es)
    (fun xs ys _ => DistinctEntries xs → SameEntries xs ys) ?same ?list ?mapping ?nilItems ?consItems ?nil ?cons ?swap
    ?trans _ _ h hd
  case same => exact fun _ => .refl
  case list => exact fun _ ih hd => .list (ih hd)
  case mapping => exact fun _ ih hd => .mapping (ih hd.2) hd.1
  case nilItems => exact fun _ => ⟨trivial, rfl, rfl⟩
  case consItems => exact fun _ _ ih ihs hd => .cons (ih hd.1) (ihs hd.2)
  case nil => exact fun _ => ⟨trivial, .nil, fun _ => .nil⟩
  case cons => exact fun key _ _ _ _ _ _ ih ihs hd => .cons key (ih hd.1) (ihs hd.2)
  case swap => exact fun a b _ hd => .swap a b hd
  case trans => exact fun _ _ ih ih' hd => (ih hd).trans (ih' (ih hd).distinct)

/-! ## What an order can bring about -/

theorem ReorderedEntries.refl : ∀ xs : List (Text × Datum), ReorderedEntries xs xs
  | [] => .nil
  | (key, d) :: xs => .cons key (.same d) (refl xs)

/-- The first entry comes last. -/
theorem ReorderedEntries.rotate (x : Text × Datum) (xs : List (Text × Datum)) :
    ReorderedEntries (x :: xs) (xs ++ [x]) := by
  induction xs with
  | nil => exact refl [x]
  | cons y xs ih => exact .trans (.swap x y xs) (.cons y.1 (.same y.2) ih)

theorem leavesOf_append (parent : Text) (xs ys : List (Text × Datum)) :
    leavesOf parent (xs ++ ys) = leavesOf parent xs ++ leavesOf parent ys := by
  induction xs with
  | nil => rfl
  | cons x xs ih => rw [List.cons_append, leavesOf, leavesOf, ih, List.append_assoc]

/-- **Every setting is the last one in some order.** -/
theorem exists_reordered_last (parent : Text) (xs : List (Text × Datum)) :
    ∀ x ∈ leavesOf parent xs, ∃ ys before, ReorderedEntries xs ys ∧ leavesOf parent ys = before ++ [x] := by
  refine leavesOf.induct
    (fun key d => ∀ x ∈ leaves key d, ∃ e before, Reordered d e ∧ leaves key e = before ++ [x])
    (fun parent xs => ∀ x ∈ leavesOf parent xs, ∃ ys before, ReorderedEntries xs ys ∧
      leavesOf parent ys = before ++ [x])
    ?mapping ?leaf ?nil ?cons parent xs
  case mapping =>
    intro key entries ih x hx
    rw [leaves] at hx
    obtain ⟨ys, before, hys, hlast⟩ := ih x hx
    exact ⟨mapping ys, before, .mapping hys, by rw [leaves, hlast]⟩
  case leaf =>
    intro key d hd x hx
    rw [leaves.eq_2 key d hd] at hx
    obtain rfl := List.mem_singleton.mp hx
    exact ⟨d, [], .same d, leaves.eq_2 key d hd⟩
  case nil => exact fun _ _ hx => absurd hx List.not_mem_nil
  case cons =>
    intro parent key d rest ihd ihrest x hx
    rw [leavesOf] at hx
    rcases List.mem_append.mp hx with hx | hx
    · obtain ⟨e, before, he, hlast⟩ := ihd x hx
      refine ⟨rest ++ [(key, e)], leavesOf parent rest ++ before, ?_, ?_⟩
      · exact .trans (.cons key he (.refl rest)) (.rotate (key, e) rest)
      · rw [leavesOf_append, leavesOf, leavesOf, List.append_nil, hlast, List.append_assoc]
    · obtain ⟨ys, before, hys, hlast⟩ := ihrest x hx
      refine ⟨(key, d) :: ys, leaves (below parent key) d ++ before, .cons key (.same d) hys, ?_⟩
      rw [leavesOf, hlast, List.append_assoc]

/-! ## Settings by their paths -/

/-- At the end of a path of keys stands a datum that is no mapping. -/
inductive Leaf : Datum → List Text → Datum → Prop
  | here {d : Datum} : (∀ entries, d ≠ mapping entries) → Leaf d [] d
  | inside {entries : List (Text × Datum)} {key : Text} {d e : Datum} {path : List Text} : (key, d) ∈ entries →
      Leaf d path e → Leaf (mapping entries) (key :: path) e

theorem mem_leavesOf {parent : Text} {entries : List (Text × Datum)} {x : Text × Datum} :
    x ∈ leavesOf parent entries ↔ ∃ key d, (key, d) ∈ entries ∧ x ∈ leaves (below parent key) d := by
  induction entries with
  | nil => simp [leavesOf]
  | cons entry entries ih =>
    obtain ⟨key, d⟩ := entry
    rw [leavesOf, List.mem_append, ih]
    constructor
    · rintro (h | ⟨key', d', hmem, h⟩)
      · exact ⟨key, d, .head _, h⟩
      · exact ⟨key', d', .tail _ hmem, h⟩
    · rintro ⟨key', d', hmem, h⟩
      rcases List.mem_cons.mp hmem with heq | hmem
      · obtain ⟨rfl, rfl⟩ := Prod.mk.inj heq
        exact .inl h
      · exact .inr ⟨key', d', hmem, h⟩

/-- **The settings of a datum** are those at the ends of its paths, each under the keys of its path joined. -/
theorem mem_leaves_iff {key k : Text} {d v : Datum} :
    (k, v) ∈ leaves key d ↔ ∃ path e, Leaf d path e ∧ k = path.foldl below key ∧ v = e.setting := by
  constructor
  · refine leaves.induct (fun key d => (k, v) ∈ leaves key d → ∃ path e, Leaf d path e ∧ k = path.foldl below key ∧
        v = e.setting)
      (fun parent entries => (k, v) ∈ leavesOf parent entries → ∃ path e, Leaf (mapping entries) path e ∧
        k = path.foldl below parent ∧ v = e.setting)
      ?mapping ?leaf ?nil ?cons key d
    case mapping => exact fun key entries ih h => ih (by rwa [leaves] at h)
    case leaf =>
      intro key d hd h
      rw [leaves.eq_2 key d hd, List.mem_singleton] at h
      obtain ⟨rfl, rfl⟩ := Prod.mk.inj h
      exact ⟨[], d, .here hd, rfl, rfl⟩
    case nil => exact fun _ h => absurd h List.not_mem_nil
    case cons =>
      intro parent key d rest ihd ihrest h
      rw [leavesOf, List.mem_append] at h
      rcases h with h | h
      · obtain ⟨path, e, hleaf, hk, hv⟩ := ihd h
        exact ⟨key :: path, e, .inside (.head _) hleaf, hk, hv⟩
      · obtain ⟨path, e, hleaf, hk, hv⟩ := ihrest h
        cases hleaf with
        | here hd => exact absurd rfl (hd rest)
        | inside hmem hleaf => exact ⟨_, e, .inside (.tail _ hmem) hleaf, hk, hv⟩
  · rintro ⟨path, e, hleaf, rfl, rfl⟩
    induction hleaf generalizing key with
    | here hd => rw [leaves.eq_2 key _ hd]; exact .head _
    | inside hmem _ ih =>
      rw [leaves]
      exact mem_leavesOf.mpr ⟨_, _, hmem, ih⟩

end Datum

namespace Config

open Datum

/-! ## Lookups -/

section Lookups

variable {c : Config} {key : Text} {v : Datum}

theorem mem_of_find? (h : c.find? key = some v) : (key, v) ∈ c.entries := by
  obtain ⟨before, after, hsplit, _⟩ := List.lookup_eq_some_iff.mp h
  exact List.mem_reverse.mp (hsplit ▸ List.mem_append_right before (.head after))

/-- A key is looked up with success if it has a setting. -/
theorem isSome_find?_iff : (c.find? key).isSome ↔ ∃ v, (key, v) ∈ c.entries := by
  rw [find?, List.lookup_isSome_iff]
  constructor
  · rintro ⟨⟨key', v⟩, hmem, hkey⟩
    exact ⟨v, eq_of_beq hkey ▸ List.mem_reverse.mp hmem⟩
  · rintro ⟨v, hmem⟩
    exact ⟨(key, v), List.mem_reverse.mpr hmem, beq_self_eq_true key⟩

/-- The last setting is the one that counts. -/
theorem find?_of_last {before : List (Text × Datum)} (h : c.entries = before ++ [(key, v)]) : c.find? key = some v := by
  simp [find?, h]

end Lookups

/-- The keys of a path joined. -/
def joined (path : List Text) : Text := path.foldl below []

/-- All settings under a key are the same. -/
def Agree (entries : List (Text × Datum)) (key : Text) : Prop :=
  ∀ path d path' d', Leaf (.mapping entries) path d → Leaf (.mapping entries) path' d' →
    joined path = key → joined path' = key → d.setting = d'.setting

section Meaning

variable {entries ys : List (Text × Datum)}

theorem mem_ofEntries_iff {key : Text} {v : Datum} :
    (key, v) ∈ (ofEntries entries).entries ↔
      ∃ path d, Leaf (.mapping entries) path d ∧ key = joined path ∧ v = d.setting := by
  have h := @mem_leaves_iff [] key (.mapping entries) v
  rwa [leaves] at h

theorem agree_iff {key : Text} :
    Agree entries key ↔
      ∀ v w, (key, v) ∈ (ofEntries entries).entries → (key, w) ∈ (ofEntries entries).entries → v = w := by
  constructor
  · intro h v w hv hw
    obtain ⟨path, d, hleaf, hkey, rfl⟩ := mem_ofEntries_iff.mp hv
    obtain ⟨path', d', hleaf', hkey', rfl⟩ := mem_ofEntries_iff.mp hw
    exact h path d path' d' hleaf hleaf' hkey.symm hkey'.symm
  · intro h path d path' d' hleaf hleaf' hkey hkey'
    exact h _ _ (mem_ofEntries_iff.mpr ⟨path, d, hleaf, hkey.symm, rfl⟩)
      (mem_ofEntries_iff.mpr ⟨path', d', hleaf', hkey'.symm, rfl⟩)

/-- In every order the same keys have settings. -/
theorem isSome_find?_reordered (hd : DistinctEntries entries) (h : ReorderedEntries entries ys) (key : Text) :
    ((ofEntries ys).find? key).isSome = ((ofEntries entries).find? key).isSome := by
  rw [Bool.eq_iff_iff, isSome_find?_iff, isSome_find?_iff]
  exact exists_congr fun v => ((h.same hd).leaves []).mem_iff.symm

/-- Settings that agree are found in every order. -/
theorem Agree.find?_reordered {key : Text} (ha : Agree entries key) (hd : DistinctEntries entries)
    (h : ReorderedEntries entries ys) : (ofEntries ys).find? key = (ofEntries entries).find? key := by
  have hsome := isSome_find?_reordered hd h key
  cases hy : (ofEntries ys).find? key with
  | none =>
    rw [hy, Option.isSome_none] at hsome
    exact (Option.not_isSome_iff_eq_none.mp (Bool.eq_false_iff.mp hsome.symm)).symm
  | some w =>
    rw [hy, Option.isSome_some] at hsome
    obtain ⟨v, hv⟩ := Option.isSome_iff_exists.mp hsome.symm
    have hw : (key, w) ∈ (ofEntries entries).entries := ((h.same hd).leaves []).mem_iff.mpr (mem_of_find? hy)
    rw [hv, agree_iff.mp ha w v hw (mem_of_find? hv)]

/-- Each setting under a key is the one that counts in some order. -/
theorem exists_reordered_find? {key : Text} {v : Datum} (h : (key, v) ∈ (ofEntries entries).entries) :
    ∃ ys, ReorderedEntries entries ys ∧ (ofEntries ys).find? key = some v := by
  obtain ⟨ys, before, hys, hlast⟩ := exists_reordered_last [] entries _ h
  exact ⟨ys, hys, find?_of_last hlast⟩

theorem find?_reordered_iff (hd : DistinctEntries entries) (key : Text) :
    (∀ ys, ReorderedEntries entries ys → (ofEntries ys).find? key = (ofEntries entries).find? key) ↔
      Agree entries key := by
  constructor
  · intro h
    refine agree_iff.mpr fun v w hv hw => ?_
    obtain ⟨ys, hys, hfind⟩ := exists_reordered_find? hv
    obtain ⟨zs, hzs, hfind'⟩ := exists_reordered_find? hw
    exact Option.some.inj (hfind.symm.trans ((h ys hys).trans ((h zs hzs).symm.trans hfind')))
  · exact fun h ys hys => h.find?_reordered hd hys

/-- The spelling of a flag under which it has a setting, and the one with underscores if it has none. -/
def spelling (c : Config) (name : Text) : Text := if (c.find? name).isSome then name else underscored name

theorem resolve_ofEntries (name : Text) :
    (ofEntries entries).resolve name = ((ofEntries entries).find? ((ofEntries entries).spelling name)).getD .null := by
  rw [resolve, spelling, show (ofEntries entries).spellings name = [name, underscored name] from rfl]
  cases h : (ofEntries entries).find? name with
  | none => simp [h]
  | some d => simp [h]

theorem spelling_reordered (hd : DistinctEntries entries) (h : ReorderedEntries entries ys) (name : Text) :
    (ofEntries ys).spelling name = (ofEntries entries).spelling name := by
  rw [spelling, spelling, isSome_find?_reordered hd h]

/-- A flag has one value if and only if the key at which it is found has. -/
theorem resolve_reordered_iff (hd : DistinctEntries entries) (name : Text) :
    (∀ ys, ReorderedEntries entries ys → (ofEntries ys).resolve name = (ofEntries entries).resolve name) ↔
      Agree entries ((ofEntries entries).spelling name) := by
  rw [← find?_reordered_iff hd]
  refine forall₂_congr fun ys hys => ?_
  rw [resolve_ofEntries, resolve_ofEntries, spelling_reordered hd hys]
  have hsome := isSome_find?_reordered hd hys ((ofEntries entries).spelling name)
  -- Nothing as a setting and no setting have the same value, but which keys have settings is the same in every order.
  cases hy : (ofEntries ys).find? ((ofEntries entries).spelling name) <;>
    cases hx : (ofEntries entries).find? ((ofEntries entries).spelling name) <;>
    simp_all

/-- **The meaning of a document**, a mapping with different keys, in the order in which the entries of its mappings are
met. In every order the same keys have settings. The setting of a key, and so the value of a flag, is the same in every
order if and only if all settings with this key are the same: those at the ends of the paths whose keys, joined by
hyphens, are the key. -/
theorem ofEntries_meaning (hd : (Datum.mapping entries).Distinct) :
    (∀ ys, ReorderedEntries entries ys →
      ∀ key, ((ofEntries ys).find? key).isSome = ((ofEntries entries).find? key).isSome) ∧
    (∀ key, (∀ ys, ReorderedEntries entries ys → (ofEntries ys).find? key = (ofEntries entries).find? key) ↔
      Agree entries key) ∧
    (∀ name, (∀ ys, ReorderedEntries entries ys → (ofEntries ys).resolve name = (ofEntries entries).resolve name) ↔
      Agree entries ((ofEntries entries).spelling name)) :=
  ⟨fun _ h => isSome_find?_reordered hd.2 h, find?_reordered_iff hd.2, resolve_reordered_iff hd.2⟩

/-- A document that spells flags in several ways, each flag in one. -/
theorem ofEntries_meaning_spelled :
    let entries : List (Text × Datum) :=
      [("max_depth", .int 3), ("log", .mapping [("level", .text "debug"), ("pretty", .bool false)]),
        ("log-caller", .bool true)]
    (Datum.mapping entries).Distinct ∧
    ∀ ys, ReorderedEntries entries ys →
      (ofEntries ys).resolve "log-level" = (ofEntries entries).resolve "log-level" := by
  intro entries
  have hd : (Datum.mapping entries).Distinct := by
    simp only [entries, Distinct, DistinctEntries, and_true, true_and]
    decide
  refine ⟨hd, ((ofEntries_meaning hd).2.2 "log-level").mpr (agree_iff.mpr ?_)⟩
  have hspelling : (ofEntries entries).spelling "log-level" = "log-level" := rfl
  have hleaves : (ofEntries entries).entries = ([("max_depth", .text "3"), ("log-level", .text "debug"),
      ("log-pretty", .bool false), ("log-caller", .bool true)] : List (Text × Datum)) := rfl
  have honly (v : Datum) (h : (("log-level" : Text), v) ∈ (ofEntries entries).entries) : v = .text "debug" := by
    simp only [hleaves, List.mem_cons, Prod.mk.injEq, List.not_mem_nil, or_false] at h
    rcases h with ⟨hkey, _⟩ | ⟨_, hv⟩ | ⟨hkey, _⟩ | ⟨hkey, _⟩
    · exact absurd hkey (by decide)
    · exact hv
    · exact absurd hkey (by decide)
    · exact absurd hkey (by decide)
  rw [hspelling]
  exact fun v w hv hw => (honly v hv).trans (honly w hw).symm

/-- The same flag in two spellings, of which the last that is met counts. -/
theorem resolve_ambiguous_layout :
    let entries : List (Text × Datum) :=
      [("log", .mapping [("time", .mapping [("layout", .text "ansic")]), ("time-layout", .text "none")]),
        ("log-time-layout", .text "none")]
    let ys : List (Text × Datum) :=
      [("log-time-layout", .text "none"),
        ("log", .mapping [("time-layout", .text "none"), ("time", .mapping [("layout", .text "ansic")])])]
    (Datum.mapping entries).Distinct ∧ ReorderedEntries entries ys ∧
      (ofEntries entries).resolve "log-time-layout" = .text "none" ∧
      (ofEntries ys).resolve "log-time-layout" = .text "ansic" := by
  intro entries ys
  refine ⟨?_, ?_, rfl, rfl⟩
  · simp only [entries, Distinct, DistinctEntries, and_true]
    decide
  · exact .trans (.cons _ (.mapping (.swap _ _ _)) (.refl _)) (.swap _ _ _)

end Meaning

end Config

end Literate
