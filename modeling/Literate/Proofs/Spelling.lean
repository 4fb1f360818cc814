import Literate.Cli.Options
import Literate.Proofs.Configuration

/-!
# Spellings of flags

In a configuration the name of a flag can be cut into nested mappings at any of its hyphens, and the hyphens that are
left can be written as underscores. A path of keys *spells* a name if its keys, joined by hyphens, are the name once
every underscore is read as a hyphen (`Config.Spells`).

A flag is looked for under two keys only: its name, and its name with underscores alone. The main statement is
`resolve_spelled`: the setting that spells a flag is found if and only if the keys of its path, joined, are one of these
two. A name with at most one hyphen has no other spelling (`eq_or_eq_of_hyphenated`); a name with two hyphens has.
-/

namespace Literate

open Text Datum

namespace Config

/-! ## Hyphens and underscores -/

/-- A text with hyphens for underscores. -/
def hyphenated (t : Text) : Text := t.map fun b => if b = byte '_' then byte '-' else b

/-- Whether a text can be the name of a flag: it has no hyphen at its start, and no underscore. -/
def IsFlagName (name : Text) : Prop := name.head? ≠ some (byte '-') ∧ byte '_' ∉ name

instance (name : Text) : Decidable (IsFlagName name) := inferInstanceAs (Decidable (_ ∧ _))

/-- The flags of all commands have such names. -/
theorem isFlagName_of_understood : ∀ v ∈ Cli.Verb.all, ∀ f ∈ v.understood, IsFlagName f.2.name := by decide

theorem hyphenated_cons (b : UInt8) (t : Text) :
    hyphenated (b :: t) = (if b = byte '_' then byte '-' else b) :: hyphenated t := rfl

theorem underscored_cons (b : UInt8) (t : Text) :
    underscored (b :: t) = (if b = byte '-' then byte '_' else b) :: underscored t := rfl

theorem hyphenated_of_notMem {t : Text} (h : byte '_' ∉ t) : hyphenated t = t := by
  induction t with
  | nil => rfl
  | cons b t ih =>
    rw [List.mem_cons, not_or] at h
    rw [hyphenated_cons, ih h.2, if_neg (Ne.symm h.1)]

theorem hyphenated_underscored {t : Text} (h : byte '_' ∉ t) : hyphenated (underscored t) = t := by
  induction t with
  | nil => rfl
  | cons b t ih =>
    rw [List.mem_cons, not_or] at h
    rw [underscored_cons, hyphenated_cons, ih h.2]
    by_cases hb : b = byte '-'
    · simp [hb]
    · simp [hb, Ne.symm h.1]

/-- What reads as a text without hyphens is that text. -/
theorem eq_of_hyphenated {k name : Text} (h : hyphenated k = name) (hname : byte '-' ∉ name) : k = name := by
  induction k generalizing name with
  | nil => exact h
  | cons b k ih =>
    subst h
    rw [hyphenated_cons, List.mem_cons, not_or] at hname
    have hb : b ≠ byte '_' := fun hb => hname.1 (by simp [hb])
    rw [hyphenated_cons, if_neg hb, ← ih rfl hname.2]

/-- What reads as a text with at most one hyphen has this hyphen, or an underscore in its place. -/
theorem eq_or_eq_of_hyphenated {k name : Text} (h : hyphenated k = name) (hname : name.count (byte '-') ≤ 1) :
    k = name ∨ k = underscored name := by
  induction k generalizing name with
  | nil => exact .inl h
  | cons b k ih =>
    subst h
    rw [hyphenated_cons, List.count_cons] at hname
    by_cases hb : b = byte '_' ∨ b = byte '-'
    · -- the one hyphen is here, and what follows has none
      have hrest : byte '-' ∉ hyphenated k := by
        have hhere : (if b = byte '_' then byte '-' else b) = byte '-' := by rcases hb with rfl | rfl <;> rfl
        rw [hhere, beq_self_eq_true, if_pos rfl] at hname
        exact List.count_eq_zero.mp (by omega)
      have hk : k = hyphenated k := eq_of_hyphenated rfl hrest
      have hu : underscored (hyphenated k) = hyphenated k := by
        refine (List.map_congr_left fun c hc => ?_).trans (List.map_id _)
        have hne : c ≠ byte '-' := fun heq => hrest (by rw [← heq]; exact hc)
        exact if_neg hne
      rcases hb with rfl | rfl
      · right
        rw [hyphenated_cons, underscored_cons, hu, ← hk]
        rfl
      · left
        rw [hyphenated_cons, ← hk]
        rfl
    · rw [not_or] at hb
      rw [if_neg hb.1] at hname
      rw [hyphenated_cons, underscored_cons, if_neg hb.1, if_neg hb.2]
      rcases ih rfl (by omega) with hk | hk
      · exact .inl (by rw [← hk])
      · exact .inr (by rw [← hk])

/-! ## Keys of paths -/

theorem foldl_below {key : Text} (h : key ≠ []) (path : List Text) : path.foldl below key = join "-" (key :: path) := by
  induction path generalizing key with
  | nil => simp [join]
  | cons p path ih =>
    have hbelow : below key p = key ++ "-" ++ p := if_neg h
    rw [List.foldl_cons, hbelow, ih (by simp [h])]
    cases path <;> simp [join, List.intercalate]

/-- A path whose first key is not empty has its keys joined by hyphens as its key. -/
theorem joined_cons {p : Text} (h : p ≠ []) (path : List Text) : joined (p :: path) = join "-" (p :: path) := by
  have hbelow : below [] p = p := if_pos rfl
  rw [joined, List.foldl_cons, hbelow, foldl_below h]

/-- A path of keys says the name of a flag: joined by hyphens, and with every underscore read as a hyphen. -/
def Spells (path : List Text) (name : Text) : Prop := hyphenated (join "-" path) = name

instance (path : List Text) (name : Text) : Decidable (Spells path name) := inferInstanceAs (Decidable (_ = _))

/-- No setting below an empty key would say the name of a flag without that key. -/
def Unmasked (entries : List (Text × Datum)) (name : Text) : Prop :=
  ∀ path d, Leaf (.mapping entries) ([] :: path) d → hyphenated (joined path) ≠ name

section Paths

variable {entries : List (Text × Datum)} {name : Text} {path : List Text} {d : Datum}

theorem leaf_mapping_iff :
    Leaf (.mapping entries) path d ↔ ∃ key e rest, path = key :: rest ∧ (key, e) ∈ entries ∧ Leaf e rest d := by
  constructor
  · intro h
    cases h with
    | here hd => exact absurd rfl (hd entries)
    | inside hmem hleaf => exact ⟨_, _, _, rfl, hmem, hleaf⟩
  · rintro ⟨key, e, rest, rfl, hmem, hleaf⟩
    exact .inside hmem hleaf

theorem ne_nil_of_leaf (h : Leaf (.mapping entries) path d) : path ≠ [] := by
  obtain ⟨key, e, rest, rfl, -⟩ := leaf_mapping_iff.mp h
  exact List.cons_ne_nil key rest

/-- What spells a flag has its keys joined by hyphens as its key. -/
theorem Spells.joined (h : Spells path name) (hname : IsFlagName name) : joined path = join "-" path := by
  match path with
  | [] => rfl
  | [p] =>
    by_cases hp : p = []
    · rw [hp]
      rfl
    · exact joined_cons hp []
  | p :: q :: path =>
    refine joined_cons (fun hp => hname.1 ?_) (q :: path)
    -- an empty first key would put a hyphen at the start of the name
    have hstart : join "-" (p :: q :: path) = byte '-' :: join "-" (q :: path) := by
      subst hp
      cases path <;> rfl
    rw [← h, hstart]
    rfl

/-- The key of a setting reads as the name of a flag if and only if its path spells the flag. -/
theorem spells_iff (hname : IsFlagName name) (hclear : Unmasked entries name) (hleaf : Leaf (.mapping entries) path d) :
    hyphenated (Config.joined path) = name ↔ Spells path name := by
  constructor
  · intro h
    match path with
    | [] => exact absurd rfl (ne_nil_of_leaf hleaf)
    | [] :: rest => exact absurd h (hclear rest d hleaf)
    | (b :: p) :: rest =>
      rw [joined_cons (List.cons_ne_nil b p)] at h
      exact h
  · intro h
    rw [h.joined hname]
    exact h

/-! ## Look-ups -/

/-- A flag without a path that spells it has no setting under either of its keys. -/
theorem find?_eq_none_of_not_spells (hname : IsFlagName name) (hclear : Unmasked entries name)
    (hnone : ∀ path d, Leaf (.mapping entries) path d → ¬ Spells path name) {key : Text}
    (hkey : hyphenated key = name) :
    (ofEntries entries).find? key = none := by
  by_contra h
  obtain ⟨v, hv⟩ := isSome_find?_iff.mp (Option.isSome_iff_ne_none.mpr h)
  obtain ⟨path, d, hleaf, hpath, -⟩ := mem_ofEntries_iff.mp hv
  exact hnone path d hleaf ((spells_iff hname hclear hleaf).mp (hpath ▸ hkey))

/-- The only setting that spells a flag is what is found under a key of the flag, if it has this key. -/
theorem find?_of_spells (hname : IsFlagName name) (hclear : Unmasked entries name)
    (hleaf : Leaf (.mapping entries) path d) (hspells : Spells path name)
    (honly : ∀ path' d', Leaf (.mapping entries) path' d' → Spells path' name → path' = path ∧ d' = d) {key : Text}
    (hkey : hyphenated key = name) :
    (ofEntries entries).find? key = if join "-" path = key then some d.setting else none := by
  have hjoined : Config.joined path = join "-" path := hspells.joined hname
  have hmem (v : Datum) (hv : (key, v) ∈ (ofEntries entries).entries) : key = join "-" path ∧ v = d.setting := by
    obtain ⟨path', d', hleaf', hpath', rfl⟩ := mem_ofEntries_iff.mp hv
    obtain ⟨rfl, rfl⟩ := honly path' d' hleaf' ((spells_iff hname hclear hleaf').mp (hpath' ▸ hkey))
    exact ⟨hpath'.trans hjoined, rfl⟩
  cases hfind : (ofEntries entries).find? key with
  | none =>
    have hne : join "-" path ≠ key := by
      intro heq
      have hsome : ((ofEntries entries).find? key).isSome :=
        isSome_find?_iff.mpr ⟨d.setting, mem_ofEntries_iff.mpr ⟨path, d, hleaf, by rw [hjoined, heq], rfl⟩⟩
      rw [hfind] at hsome
      exact Bool.false_ne_true hsome
    rw [if_neg hne]
  | some v =>
    obtain ⟨rfl, rfl⟩ := hmem v (mem_of_find? hfind)
    rw [if_pos rfl]

end Paths

theorem resolve_ofEntries_eq (entries : List (Text × Datum)) (name : Text) :
    (ofEntries entries).resolve name =
      (((ofEntries entries).find? name).or ((ofEntries entries).find? (underscored name))).getD .null := by
  rw [resolve, show (ofEntries entries).spellings name = [name, underscored name] from rfl]
  cases h : (ofEntries entries).find? name <;> cases h' : (ofEntries entries).find? (underscored name) <;> simp [h, h']

/-- **The spellings of a flag that count**, in a document in which no setting below an empty key says the name of the
flag. If one leaf alone spells the flag, the flag has the setting of this leaf if the keys of its path, joined by
hyphens, are the name of the flag or the name with underscores alone, and it has no setting otherwise; where the name
has at most one hyphen, the leaf counts in every spelling. If no leaf spells the flag, the flag has no setting. -/
theorem resolve_spelled {entries : List (Text × Datum)} {name : Text} (hname : IsFlagName name)
    (hclear : Unmasked entries name) :
    (∀ path d, Leaf (.mapping entries) path d → Spells path name →
      (∀ path' d', Leaf (.mapping entries) path' d' → Spells path' name → path' = path ∧ d' = d) →
      ((ofEntries entries).resolve name =
          if join "-" path = name ∨ join "-" path = underscored name then d.setting else .null) ∧
        (name.count (byte '-') ≤ 1 → (ofEntries entries).resolve name = d.setting)) ∧
    ((∀ path d, Leaf (.mapping entries) path d → ¬ Spells path name) → (ofEntries entries).resolve name = .null) := by
  have hself : hyphenated name = name := hyphenated_of_notMem hname.2
  have hunder : hyphenated (underscored name) = name := hyphenated_underscored hname.2
  refine ⟨fun path d hleaf hspells honly => ?_, fun hnone => ?_⟩
  · have hresolve : (ofEntries entries).resolve name =
        if join "-" path = name ∨ join "-" path = underscored name then d.setting else .null := by
      rw [resolve_ofEntries_eq, find?_of_spells hname hclear hleaf hspells honly hself,
        find?_of_spells hname hclear hleaf hspells honly hunder]
      by_cases h : join "-" path = name
      · simp [h]
      · rw [if_neg h, Option.none_or]
        by_cases h' : join "-" path = underscored name <;> simp [h, h']
    refine ⟨hresolve, fun hcount => ?_⟩
    rw [hresolve, if_pos (eq_or_eq_of_hyphenated hspells hcount)]
  · rw [resolve_ofEntries_eq, find?_eq_none_of_not_spells hname hclear hnone hself,
      find?_eq_none_of_not_spells hname hclear hnone hunder]
    rfl

/-- A flag with two hyphens, one of them a cut between mappings, beside another flag with an underscore. -/
theorem resolve_spelled_cut :
    let entries : List (Text × Datum) :=
      [("log", .mapping [("time-layout", .text "ansic"), ("pretty", .bool false)]), ("max_depth", .int 3)]
    IsFlagName "log-time-layout" ∧ Unmasked entries "log-time-layout" ∧
      (ofEntries entries).resolve "log-time-layout" = .text "ansic" := by
  intro entries
  let cutPath : List Text := ["log", "time-layout"]
  let prettyPath : List Text := ["log", "pretty"]
  let depthPath : List Text := ["max_depth"]
  have hleaves (path : List Text) (d : Datum) (h : Leaf (.mapping entries) path d) :
      path = cutPath ∧ d = .text "ansic" ∨ path = prettyPath ∨ path = depthPath := by
    obtain ⟨key, e, rest, rfl, hmem, h⟩ := leaf_mapping_iff.mp h
    simp only [entries, List.mem_cons, Prod.mk.injEq, List.not_mem_nil, or_false] at hmem
    rcases hmem with ⟨rfl, rfl⟩ | ⟨rfl, rfl⟩
    · obtain ⟨key, e, rest, rfl, hmem, h⟩ := leaf_mapping_iff.mp h
      simp only [List.mem_cons, Prod.mk.injEq, List.not_mem_nil, or_false] at hmem
      rcases hmem with ⟨rfl, rfl⟩ | ⟨rfl, rfl⟩
      · cases h
        exact .inl ⟨rfl, rfl⟩
      · cases h
        exact .inr (.inl rfl)
    · cases h
      exact .inr (.inr rfl)
  have hname : IsFlagName "log-time-layout" := by decide
  have hclear : Unmasked entries "log-time-layout" := by
    intro path d h
    have hfirst : ([] : Text) = "log" ∨ ([] : Text) = "max_depth" := by
      rcases hleaves _ d h with ⟨h, -⟩ | h | h
      · exact .inl (List.cons.inj h).1
      · exact .inl (List.cons.inj h).1
      · exact .inr (List.cons.inj h).1
    exact absurd hfirst (by decide)
  have hleaf : Leaf (.mapping entries) cutPath (.text "ansic") :=
    .inside (.head _) (.inside (.head _) (.here fun _ h => nomatch h))
  have honly (path : List Text) (d : Datum) (h : Leaf (.mapping entries) path d) (hs : Spells path "log-time-layout") :
      path = cutPath ∧ d = .text "ansic" := by
    rcases hleaves path d h with h | rfl | rfl
    · exact h
    · exact absurd hs (by decide)
    · exact absurd hs (by decide)
  exact ⟨hname, hclear, ((resolve_spelled hname hclear).1 cutPath _ hleaf rfl honly).1⟩

/-- One of the two hyphens of a flag is a cut and the other an underscore: the only setting of the document is
ignored. -/
theorem resolve_ignores_mixed :
    let entries : List (Text × Datum) := [("log", .mapping [("time_layout", .text "ansic")])]
    let mixed : List Text := ["log", "time_layout"]
    (Datum.mapping entries).Distinct ∧ Leaf (.mapping entries) mixed (.text "ansic") ∧
      Spells mixed "log-time-layout" ∧
      (∀ path d, Leaf (.mapping entries) path d → path = mixed ∧ d = .text "ansic") ∧
      (ofEntries entries).resolve "log-time-layout" = .null ∧ (Datum.text "ansic").setting ≠ .null := by
  intro entries mixed
  refine ⟨?_, .inside (.head _) (.inside (.head _) (.here fun _ h => nomatch h)), rfl, fun path d h => ?_, rfl, ?_⟩
  · simp [entries, Distinct, DistinctEntries]
  · obtain ⟨key, e, rest, rfl, hmem, h⟩ := leaf_mapping_iff.mp h
    simp only [entries, List.mem_cons, Prod.mk.injEq, List.not_mem_nil, or_false] at hmem
    obtain ⟨rfl, rfl⟩ := hmem
    obtain ⟨key, e, rest, rfl, hmem, h⟩ := leaf_mapping_iff.mp h
    simp only [List.mem_cons, Prod.mk.injEq, List.not_mem_nil, or_false] at hmem
    obtain ⟨rfl, rfl⟩ := hmem
    cases h
    exact ⟨rfl, rfl⟩
  · simp [setting]

end Config

end Literate
