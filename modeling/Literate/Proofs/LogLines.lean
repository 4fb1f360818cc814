import Literate.Proofs.LogObjects

/-!
# Attributes in pretty log lines

In a line, groups are dotted keys: what is written of attributes are their *leaves*, each value that is no group under
the keys of all groups around it (`line_eq`). There are two ways to come by such a key. The path of the groups that were
opened in a handler is put before the keys of the attributes to come, and the path of a group that is a value is carried
along while the group is written. Both give the same leaves (`leaves_qualified`), so whatever was laid down in a handler
can as well stand in groups in one record (`write_nested`).
-/

namespace Literate.Log

open Text

/-! ## Leaves -/

/-- The path of what stands in a group. A group without a key adds nothing to it. -/
def dotted (path k : Text) : Text := if k.isEmpty then path else path ++ k ++ "."

mutual

/-- The values of an attribute that are no groups, each under its dotted key. -/
def Value.leaves (path k : Text) : Value → List (Text × Value)
  | .group attrs => leavesAll (dotted path k) attrs
  | .failure _ attrs => leavesAll (dotted path k) attrs
  | v => if k.isEmpty then [] else [(path ++ k, v)]

/-- The leaves of attributes. -/
def leavesAll (path : Text) : List (Text × Value) → List (Text × Value)
  | [] => []
  | (k, v) :: rest => v.leaves path k ++ leavesAll path rest

end

/-- What is written of a leaf. -/
def leafText (a : Text × Value) : Text := " " ++ block (a.1 ++ "=") ++ blockValue false a.2

theorem leavesAll_eq_flatMap (path : Text) (attrs : List Attr) :
    leavesAll path attrs = attrs.flatMap fun a => a.2.leaves path a.1 := by
  induction attrs with
  | nil => rw [leavesAll, List.flatMap_nil]
  | cons a rest ih =>
    obtain ⟨k, v⟩ := a
    rw [leavesAll, List.flatMap_cons, ih]

theorem leavesAll_append (path : Text) (as bs : List Attr) :
    leavesAll path (as ++ bs) = leavesAll path as ++ leavesAll path bs := by
  simp only [leavesAll_eq_flatMap, List.flatMap_append]

/-- The pair of a value that is no group. -/
theorem onlyIf_pair (path k : Text) (v : Value) :
    onlyIf (k ≠ []) (" " ++ block (path ++ k ++ "=") ++ blockValue false v) =
      (if k.isEmpty then [] else [(path ++ k, v)]).flatMap leafText := by
  by_cases hk : k = []
  · simp [hk, onlyIf]
  · simp [hk, onlyIf, leafText]

mutual

theorem pairs_eq (path k : Text) : (v : Value) → v.pairs path k = (v.leaves path k).flatMap leafText
  | .group attrs => by
    rw [Value.pairs, Value.leaves]
    exact pairsAll_eq _ attrs
  | .failure _ attrs => by
    rw [Value.pairs, Value.leaves]
    exact pairsAll_eq _ attrs
  | .text _ | .int _ | .uint _ | .float _ | .duration _ | .bool _ | .time _ | .null | .texts _ | .error _ => by
    simp only [Value.pairs, Value.leaves]
    exact onlyIf_pair path k _

/-- What is written of attributes are their leaves. -/
theorem pairsAll_eq (path : Text) : (attrs : List (Text × Value)) →
    pairsAll path attrs = (leavesAll path attrs).flatMap leafText
  | [] => by
    rw [pairsAll, leavesAll]
    rfl
  | (k, v) :: rest => by
    rw [pairsAll, leavesAll, List.flatMap_append, pairs_eq path k v, pairsAll_eq path rest]

end

/-! ## Two ways to a dotted key -/

section Leaves

variable {path : Text} {attrs : List Attr}

/-- Whether every one of some attributes has a key. -/
def AllNamed (attrs : List Attr) : Prop := ∀ a ∈ attrs, a.1 ≠ []

instance (attrs : List Attr) : Decidable (AllNamed attrs) := inferInstanceAs (Decidable (∀ a ∈ attrs, a.1 ≠ []))

/-- A path before the key of an attribute is as good as the path of a group around it. -/
theorem leaves_qualified {k : Text} (hk : k ≠ []) (path p : Text) (v : Value) :
    v.leaves path (p ++ k) = v.leaves (path ++ p) k := by
  have hdotted : dotted path (p ++ k) = dotted (path ++ p) k := by simp [dotted, hk]
  cases v with
  | group attrs => rw [Value.leaves, Value.leaves, hdotted]
  | failure m attrs => rw [Value.leaves, Value.leaves, hdotted]
  | _ => simp [Value.leaves, hk]

theorem leavesAll_qualified (h : AllNamed attrs) (p : Text) :
    leavesAll path (attrs.map fun a => (p ++ a.1, a.2)) = leavesAll (path ++ p) attrs := by
  rw [leavesAll_eq_flatMap, leavesAll_eq_flatMap, List.flatMap_map]
  exact List.flatMap_congr fun a ha => leaves_qualified (h a ha) path p a.2

/-- A group without attributes has no leaves, so it does not matter whether it is left out. -/
theorem leavesAll_filter : leavesAll path (attrs.filter fun a => !a.2.isEmptyGroup) = leavesAll path attrs := by
  induction attrs with
  | nil => rfl
  | cons a rest ih =>
    obtain ⟨k, v⟩ := a
    by_cases hempty : v.isEmptyGroup = true
    · obtain rfl : v = .group [] := by
        unfold Value.isEmptyGroup at hempty
        split at hempty
        · rfl
        · exact absurd hempty (by decide)
      rw [List.filter_cons_of_neg (by simp [Value.isEmptyGroup]), ih, leavesAll, Value.leaves, leavesAll,
        List.nil_append]
    · rw [List.filter_cons_of_pos (by simpa using hempty), leavesAll, leavesAll, ih]

/-- Attributes in a group have its path before their keys. -/
theorem leavesAll_group {k : Text} (hk : k ≠ []) :
    leavesAll path [(k, .ofAttrs attrs)] = leavesAll (path ++ k ++ ".") attrs := by
  rw [leavesAll, leavesAll, List.append_nil, Value.ofAttrs, Value.leaves, leavesAll_filter, dotted,
    if_neg (mt List.isEmpty_iff.mp hk)]

end Leaves

/-! ## Attributes in groups -/

/-- Attributes in groups, the first one outermost. -/
def wrap (attrs : List Attr) : (groups : List Text) → List Attr
  | [] => attrs
  | name :: groups => [(name, .ofAttrs (wrap attrs groups))]

/-- The attributes that were laid down and those that follow, each lot in groups of its own: in those that were open
when it was added. -/
def nestedApart (attrs : List Attr) (groups : List Text) : List Extension → List Attr
  | [] => wrap attrs groups
  | .attrs as :: es => wrap as groups ++ nestedApart attrs groups es
  | .group name :: es => nestedApart attrs (groups ++ [name]) es

/-- The attributes that were laid down and those that follow, all in one tree of groups: whatever is added after a group
was opened stands in that group. -/
def nestedTogether (attrs : List Attr) : List Extension → List Attr
  | [] => attrs
  | .attrs as :: es => as ++ nestedTogether attrs es
  | .group name :: es => [(name, .ofAttrs (nestedTogether attrs es))]

/-- Whether a group that is opened has a name, and attributes that are added have keys. -/
def Extension.IsNamed : Extension → Prop
  | .attrs as => AllNamed as
  | .group name => name ≠ []

instance : (e : Extension) → Decidable e.IsNamed
  | .attrs as => inferInstanceAs (Decidable (AllNamed as))
  | .group name => inferInstanceAs (Decidable (name ≠ []))

/-- The path of groups. -/
def pathOf (groups : List Text) : Text := groups.flatMap (· ++ ".")

section Nesting

variable {attrs : List Attr} {groups : List Text} {es : List Extension}

theorem leavesAll_wrap (hgroups : ∀ name ∈ groups, name ≠ []) (path : Text) :
    leavesAll path (wrap attrs groups) = leavesAll (path ++ pathOf groups) attrs := by
  induction groups generalizing path with
  | nil => simp [wrap, pathOf]
  | cons name groups ih =>
    have hname : name ≠ [] := hgroups name List.mem_cons_self
    rw [wrap, leavesAll_group hname, ih fun n hn => hgroups n (List.mem_cons_of_mem _ hn)]
    simp [pathOf]

theorem allNamed_wrap (hattrs : AllNamed attrs) (hgroups : ∀ name ∈ groups, name ≠ []) :
    AllNamed (wrap attrs groups) := by
  cases groups with
  | nil => exact hattrs
  | cons name groups =>
    intro a ha
    rw [wrap, List.mem_singleton] at ha
    rw [ha]
    exact hgroups name List.mem_cons_self

theorem AllNamed.append {as bs : List Attr} (has : AllNamed as) (hbs : AllNamed bs) : AllNamed (as ++ bs) := by
  intro a ha
  rcases List.mem_append.mp ha with h | h
  · exact has a h
  · exact hbs a h

/-- The leaves of the attributes in groups of their own are those of the attributes that were laid down, and then those
of the others below the path of the groups that are open in the end. -/
theorem leavesAll_nestedApart (hes : ∀ e ∈ es, e.IsNamed) (hgroups : ∀ name ∈ groups, name ≠ []) (path : Text) :
    leavesAll path (nestedApart attrs groups es) =
      leavesAll [] (laidDown (path ++ pathOf groups) es) ++ leavesAll (pathAfter (path ++ pathOf groups) es) attrs := by
  induction es generalizing groups with
  | nil => rw [nestedApart, laidDown, pathAfter, leavesAll, List.nil_append, leavesAll_wrap hgroups]
  | cons e es ih =>
    obtain ⟨he, hrest⟩ := List.forall_mem_cons.mp hes
    cases e with
    | attrs as =>
      rw [nestedApart, laidDown, pathAfter, leavesAll_append, leavesAll_append, leavesAll_wrap hgroups,
        ih hrest hgroups, leavesAll_qualified he, List.nil_append, List.append_assoc]
    | group name =>
      have hname : name ≠ [] := he
      have hopen : ∀ n ∈ groups ++ [name], n ≠ [] := by
        intro n hn
        rcases List.mem_append.mp hn with h | h
        · exact hgroups n h
        · rw [List.mem_singleton.mp h]
          exact hname
      have hpath : path ++ pathOf (groups ++ [name]) = path ++ pathOf groups ++ name ++ "." := by simp [pathOf]
      rw [nestedApart, laidDown, pathAfter, if_neg hname, ih hrest hopen, hpath]

/-- The same leaves come from one tree of groups. -/
theorem leavesAll_nestedTogether (hes : ∀ e ∈ es, e.IsNamed) (path : Text) :
    leavesAll path (nestedTogether attrs es) =
      leavesAll [] (laidDown path es) ++ leavesAll (pathAfter path es) attrs := by
  induction es generalizing path with
  | nil => rw [nestedTogether, laidDown, pathAfter, leavesAll, List.nil_append]
  | cons e es ih =>
    obtain ⟨he, hrest⟩ := List.forall_mem_cons.mp hes
    cases e with
    | attrs as =>
      rw [nestedTogether, laidDown, pathAfter, leavesAll_append, leavesAll_append, ih hrest, leavesAll_qualified he,
        List.nil_append, List.append_assoc]
    | group name =>
      have hname : name ≠ [] := he
      rw [nestedTogether, laidDown, pathAfter, if_neg hname, leavesAll_group hname, ih hrest]

theorem allNamed_nestedApart (hattrs : AllNamed attrs) (hes : ∀ e ∈ es, e.IsNamed)
    (hgroups : ∀ name ∈ groups, name ≠ []) : AllNamed (nestedApart attrs groups es) := by
  induction es generalizing groups with
  | nil => exact allNamed_wrap hattrs hgroups
  | cons e es ih =>
    obtain ⟨he, hrest⟩ := List.forall_mem_cons.mp hes
    cases e with
    | attrs as => exact (allNamed_wrap he hgroups).append (ih hrest hgroups)
    | group name =>
      refine ih hrest fun n hn => ?_
      rcases List.mem_append.mp hn with h | h
      · exact hgroups n h
      · rw [List.mem_singleton.mp h]
        exact he

theorem allNamed_nestedTogether (hattrs : AllNamed attrs) (hes : ∀ e ∈ es, e.IsNamed) :
    AllNamed (nestedTogether attrs es) := by
  induction es with
  | nil => exact hattrs
  | cons e es ih =>
    obtain ⟨he, hrest⟩ := List.forall_mem_cons.mp hes
    cases e with
    | attrs as => exact AllNamed.append he (ih hrest)
    | group name =>
      intro a ha
      rw [nestedTogether, List.mem_singleton] at ha
      rw [ha]
      exact he

end Nesting

/-! ## Lines -/

/-- The record with other attributes. -/
def Record.saying (r : Record) (attrs : List Attr) : Record := { r with message := { r.message with attrs } }

namespace Pretty

/-- What a line begins with: time, level, place and message. -/
def opening (h : Pretty) (r : Record) : Text :=
  let stamp := h.stamp r
  let level := levelText r.message.level
  onlyIf (stamp ≠ []) (block stamp ++ " ") ++ block (level ++ List.replicate (5 - level.length) (byte ' ')) ++
    onlyIf (h.showsSource r) (" " ++ block sourceText) ++ " " ++ block r.message.text

/-- A line is its beginning and the leaves of all attributes. -/
theorem line_eq (h : Pretty) (r : Record) :
    h.line r = h.opening r ++ (leavesAll [] (h.allAttrs r)).flatMap leafText ++ "\n" := by
  rw [← pairsAll_eq]
  rfl

/-- The leaves of a record stand below the path of the groups that are open. -/
theorem leaves_allAttrs (h : Pretty) {r : Record} (hr : AllNamed r.message.attrs) :
    leavesAll [] (h.allAttrs r) = leavesAll [] h.attrs ++ leavesAll h.path r.message.attrs := by
  have hkept : AllNamed (r.message.attrs.filter fun a => !a.2.isEmptyGroup) :=
    fun a ha => hr a (List.mem_filter.mp ha).1
  rw [allAttrs, leavesAll_append, qualify, leavesAll_qualified hkept, leavesAll_filter, List.nil_append]

/-- **Attributes and groups that are laid down are as good as attributes in groups.** A handler in which attributes were
laid down and groups were opened writes of a record the line that the handler without them writes of the record in which
the attributes stand in groups, either each lot of them in groups of its own, or all in one tree. The groups have names,
and the attributes that are not below others have keys. -/
theorem write_nested {h : Pretty} (htext : h.json = false) {es : List Extension} (hes : ∀ e ∈ es, e.IsNamed)
    {r : Record} (hr : AllNamed r.message.attrs) :
    (h.extendAll es).write r = h.write (r.saying (nestedApart r.message.attrs [] es)) ∧
      (h.extendAll es).write r = h.write (r.saying (nestedTogether r.message.attrs es)) := by
  have hextended := extendAll_eq h es
  have hleaves : leavesAll [] ((h.extendAll es).allAttrs r) = leavesAll [] h.attrs ++
      (leavesAll [] (laidDown h.path es) ++ leavesAll (pathAfter h.path es) r.message.attrs) := by
    rw [leaves_allAttrs _ hr, hextended, leavesAll_append, List.append_assoc]
  -- a record says the same if its attributes have the same leaves
  have hsame : ∀ attrs, AllNamed attrs → leavesAll h.path attrs =
      leavesAll [] (laidDown h.path es) ++ leavesAll (pathAfter h.path es) r.message.attrs →
      (h.extendAll es).write r = h.write (r.saying attrs) := by
    intro attrs hattrs heq
    have hopening : (h.extendAll es).opening r = h.opening (r.saying attrs) := by
      rw [hextended]
      rfl
    have hplain : (h.extendAll es).json = false := by rw [hextended, htext]
    rw [write, write, hplain, htext, if_neg Bool.false_ne_true, if_neg Bool.false_ne_true, line_eq, line_eq, hleaves,
      leaves_allAttrs h hattrs, hopening, ← heq]
    rfl
  have hnone : ∀ name ∈ ([] : List Text), name ≠ [] := fun _ hname => absurd hname List.not_mem_nil
  constructor
  · refine hsame _ (allNamed_nestedApart hr hes hnone) ?_
    rw [leavesAll_nestedApart hes hnone, pathOf, List.flatMap_nil, List.append_nil]
  · exact hsame _ (allNamed_nestedTogether hr hes) (leavesAll_nestedTogether hes _)

/-- Attributes and groups in turn, with groups in groups, some of them without a key or without attributes. -/
theorem write_nested_interleaved :
    let h : Pretty := { json := false, options := ⟨.info, false, []⟩, attrs := [("a", .bool true)], path := "p." }
    let es : List Extension := [.attrs [("b", .int 1)], .group "g",
      .attrs [("c", .group [([], .group [("d", .text "x y")]), ([], .int 2), ("e", .group [])])], .group "h"]
    let r : Record := ⟨none, ⟨.warn, "m", [("f", .failure "n" [("error", .text "n")]), ("i", .group [])]⟩, false⟩
    (∀ e ∈ es, e.IsNamed) ∧ AllNamed r.message.attrs ∧
      (h.extendAll es).write r = "WARN  m a=true p.b=1 p.g.c.d=x y p.g.h.f.error=n\n" ∧
      (h.extendAll es).write r = h.write (r.saying (nestedApart r.message.attrs [] es)) ∧
      (h.extendAll es).write r = h.write (r.saying (nestedTogether r.message.attrs es)) := by
  intro h es r
  have hes : ∀ e ∈ es, e.IsNamed := by decide
  have hr : AllNamed r.message.attrs := by decide
  exact ⟨hes, hr, by decide, write_nested rfl hes hr⟩

/-- An attribute without a key is not told from a key with nothing behind the last point, once a group is open. -/
example : let h : Pretty := { json := false, options := ⟨.info, false, []⟩ }
    (h.withGroup "g").write ⟨none, ⟨.info, "m", [([], .int 1)]⟩, false⟩ = "INFO  m g.=1\n" ∧
      h.write ⟨none, ⟨.info, "m", [("g", .ofAttrs [([], .int 1)])]⟩, false⟩ = "INFO  m\n" := by
  decide

end Pretty

end Literate.Log
