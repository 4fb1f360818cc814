import Literate.Proofs.LogValues
import Literate.Proofs.Unambiguity

/-!
# Pretty objects as JSON texts

A pretty handler writes the object of a record by hand: texts in quotes that are not those of JSON, and durations and
times bare. So what it writes is a JSON text if and only if all texts are portable, all numbers are finite, and there
are neither durations nor times (`Pretty.write_isText`). Then it is an object in which the attributes that have a key
stand with their values, in their order (`ShowsAll`), whatever attributes and groups were laid down in the handler.
-/

namespace Literate.Log

open Text Json

/-! ## What an object shows -/

mutual

/-- Whether a value is written as JSON. -/
def Value.isPortable : Value → Bool
  | .text t => t.isPortable
  | .float bits => Binary.isFinite bits
  | .duration _ => false
  | .time _ => false
  | .texts items => (listText (items.getD [])).isPortable
  | .error m => m.isPortable
  | .failure _ attrs => portableAll attrs
  | .group attrs => portableAll attrs
  | _ => true

/-- Whether all attributes that have a key are written as JSON. -/
def portableAll : List (Text × Value) → Bool
  | [] => true
  | (k, v) :: rest => (k.isEmpty || (k.isPortable && v.isPortable)) && portableAll rest

end

mutual

/-- What a value is in an object. A floating-point number is a decimal that is rounded to it, and a list of texts is one
text. -/
inductive Value.Shows : Value → Tree → Prop
  | text (t : Text) : Value.Shows (.text t) (.string t)
  | int (n : Int) : Value.Shows (.int n) (.number n)
  | uint (n : Nat) : Value.Shows (.uint n) (.number n)
  | float {bits : UInt64} {q : ℚ} : Binary.isFinite bits → Binary.RoundsTo q bits →
      Value.Shows (.float bits) (.number q)
  | bool (b : Bool) : Value.Shows (.bool b) (.bool b)
  | null : Value.Shows .null .null
  | texts (items : Option (List Text)) : Value.Shows (.texts items) (.string (listText (items.getD [])))
  | error (m : Text) : Value.Shows (.error m) (.string m)
  | failure (m : Text) {attrs : List (Text × Value)} {ms : List (Text × Tree)} : ShowsAll attrs ms →
      Value.Shows (.failure m attrs) (.object ms)
  | group {attrs : List (Text × Value)} {ms : List (Text × Tree)} : ShowsAll attrs ms →
      Value.Shows (.group attrs) (.object ms)

/-- What attributes are in an object: those that have a key are its members, in their order. -/
inductive ShowsAll : List (Text × Value) → List (Text × Tree) → Prop
  | nil : ShowsAll [] []
  | unnamed (v : Value) {rest : List (Text × Value)} {ms : List (Text × Tree)} : ShowsAll rest ms →
      ShowsAll (([], v) :: rest) ms
  | named {k : Text} {v : Value} {x : Tree} {rest : List (Text × Value)} {ms : List (Text × Tree)} : k ≠ [] →
      v.Shows x → ShowsAll rest ms → ShowsAll ((k, v) :: rest) ((k, x) :: ms)

end

/-- Whether an attribute has a key. -/
def isNamed (a : Text × Value) : Bool := !a.1.isEmpty

/-! ### Members -/

section Members

variable {k : Text} {v : Value} {rest : List (Text × Value)}

theorem membersAll_unnamed (indent : Nat) (first : Bool) :
    membersAll indent first (([], v) :: rest) = membersAll indent first rest := by
  rw [membersAll]
  rfl

theorem membersAll_named (indent : Nat) (first : Bool) (hk : k ≠ []) :
    membersAll indent first ((k, v) :: rest) = onlyIf (!first) "," ++ "\n" ++ List.replicate (indent + 2) (byte ' ') ++
      quote k ++ ": " ++ v.object (indent + 2) ++ membersAll indent false rest := by
  rw [membersAll, if_neg (mt List.isEmpty_iff.mp hk), block_quote]

/-- After the first member, each one has a comma before it. -/
theorem membersAll_false (indent : Nat) (attrs : List (Text × Value)) :
    membersAll indent false attrs = onlyIf (attrs.any isNamed) "," ++ membersAll indent true attrs := by
  induction attrs with
  | nil => simp [membersAll, onlyIf]
  | cons a rest ih =>
    obtain ⟨k, v⟩ := a
    by_cases hk : k = []
    · subst hk
      rw [membersAll_unnamed, membersAll_unnamed, ih]
      rfl
    · have hnamed : isNamed (k, v) = true := by simp [isNamed, hk]
      rw [membersAll_named _ _ hk, membersAll_named _ _ hk, List.any_cons, hnamed]
      simp [onlyIf]

theorem membersAll_of_unnamed {attrs : List (Text × Value)} (h : attrs.any isNamed = false) (indent : Nat)
    (first : Bool) : membersAll indent first attrs = [] := by
  induction attrs with
  | nil => rw [membersAll]
  | cons a rest ih =>
    obtain ⟨k, v⟩ := a
    simp only [List.any_cons, Bool.or_eq_false_iff, isNamed, Bool.not_eq_false', List.isEmpty_iff] at h
    obtain ⟨rfl, hrest⟩ := h
    rw [membersAll_unnamed]
    exact ih hrest

theorem isSpace_line (indent : Nat) : IsSpace ("\n" ++ List.replicate indent (byte ' ')) := by
  have hfeed : ("\n" : Text) = [byte '\n'] := rfl
  intro b hb
  rcases List.mem_append.mp hb with hb | hb
  · rw [hfeed, List.mem_singleton] at hb
    rw [hb]
    rfl
  · rw [List.eq_of_mem_replicate hb]
    rfl

end Members

/-! ## Values that are written as JSON -/

theorem reads_quote {t : Text} (h : t.isPortable) : Reads (block (quote t)) (.value (.string t)) := by
  rw [block_quote]
  exact .string (isString_quote h)

theorem reads_number {t : Text} {q : ℚ} (h : IsNumber t q) : Reads (block t) (.value (.number q)) := by
  rw [block_eq_self fun b hb => le_of_mem_isNumber h hb]
  exact .number h

theorem showsAll_unnamed {attrs : List (Text × Value)} {ms : List (Text × Tree)} (h : ShowsAll attrs ms)
    (hnone : attrs.any isNamed = false) : ms = [] := by
  induction attrs generalizing ms with
  | nil =>
    cases h
    rfl
  | cons a rest ih =>
    rw [List.any_cons, Bool.or_eq_false_iff] at hnone
    cases h with
    | unnamed _ hrest => exact ih hrest hnone.2
    | named hk => exact absurd hnone.1 (by simp [isNamed, hk])

/-- Members between braces are an object. -/
theorem reads_objectAll {attrs : List (Text × Value)} {ms : List (Text × Tree)} {indent : Nat} (h : ShowsAll attrs ms)
    (hreads : attrs.any isNamed → ∀ a, IsSpace a → Reads (membersAll indent true attrs ++ a) (.members ms)) :
    Reads (objectAll indent attrs) (.value (.object ms)) := by
  have hbraces : ∀ t : Text, ofString "\x7b" ++ t ++ ofString "\x7d" = 123 :: t ++ [125] := fun _ => rfl
  have hany : (attrs.any fun a => !a.1.isEmpty) = attrs.any isNamed := rfl
  rw [objectAll, hany, List.append_assoc (ofString "\x7b"), hbraces]
  cases hnamed : attrs.any isNamed with
  | false =>
    rw [membersAll_of_unnamed hnamed, showsAll_unnamed h hnamed]
    exact .emptyObject fun _ hb => absurd hb List.not_mem_nil
  | true => exact .object (hreads hnamed _ (isSpace_line indent))

/-- A key and a value on a line of their own are a member. -/
theorem reads_member {k t a : Text} {x : Tree} (hk : k.isPortable) (ht : Reads t (.value x)) (ha : IsSpace a)
    (indent : Nat) :
    Reads ("\n" ++ List.replicate (indent + 2) (byte ' ') ++ quote k ++ ": " ++ t ++ a) (.member k x) := by
  have hcolon : ofString ": " = byte ':' :: [byte ' '] := rfl
  have hblank : IsSpace [byte ' '] := by
    intro b hb
    rw [List.mem_singleton.mp hb]
    rfl
  have hmember := Reads.member (isSpace_line (indent + 2)) (isString_quote hk)
    (fun _ hb => absurd hb List.not_mem_nil) hblank ht ha
  rw [hcolon]
  simpa using hmember

mutual

/-- A portable value is written as a JSON value. -/
theorem reads_object : (v : Value) → v.isPortable → ∀ indent, ∃ x, Reads (v.object indent) (.value x) ∧ v.Shows x
  | .text t, h, indent => by
    simp only [Value.isPortable] at h
    simp only [Value.object, blockValue, if_true]
    exact ⟨.string t, reads_quote h, .text t⟩
  | .int n, _, indent => by
    simp only [Value.object, blockValue, Value.plainText]
    exact ⟨.number n, reads_number (isNumber_ofInt n), .int n⟩
  | .uint n, _, indent => by
    simp only [Value.object, blockValue, Value.plainText]
    exact ⟨.number n, reads_number (isNumber_ofNat n), .uint n⟩
  | .float bits, h, indent => by
    simp only [Value.isPortable] at h
    obtain ⟨d, hd, hcanonical, hrounds⟩ := Binary.roundsTo_ofBits h
    simp only [Value.object, blockValue, Value.plainText, floatText, hd, Number.general]
    exact ⟨.number d.value, reads_number (Decimal.isNumber_general hcanonical), .float h hrounds⟩
  | .duration _, h, _ => by
    rw [Value.isPortable] at h
    exact nomatch h
  | .bool b, _, indent => by
    simp only [Value.object, blockValue, Value.plainText]
    refine ⟨.bool b, ?_, .bool b⟩
    cases b with
    | false => exact .false
    | true => exact .true
  | .time _, h, _ => by
    rw [Value.isPortable] at h
    exact nomatch h
  | .null, _, indent => by
    simp only [Value.object, blockValue]
    exact ⟨.null, .null, .null⟩
  | .texts items, h, indent => by
    simp only [Value.isPortable] at h
    simp only [Value.object, blockValue, if_true]
    exact ⟨.string _, reads_quote h, .texts items⟩
  | .error m, h, indent => by
    simp only [Value.isPortable] at h
    simp only [Value.object, blockValue, if_true]
    exact ⟨.string m, reads_quote h, .error m⟩
  | .failure m attrs, h, indent => by
    rw [Value.isPortable] at h
    obtain ⟨ms, hshows, hreads⟩ := reads_membersAll attrs h indent
    rw [Value.object]
    exact ⟨.object ms, reads_objectAll hshows hreads, .failure m hshows⟩
  | .group attrs, h, indent => by
    rw [Value.isPortable] at h
    obtain ⟨ms, hshows, hreads⟩ := reads_membersAll attrs h indent
    rw [Value.object]
    exact ⟨.object ms, reads_objectAll hshows hreads, .group hshows⟩

/-- Portable attributes are written as the members of an object, if there are any with a key. -/
theorem reads_membersAll : (attrs : List (Text × Value)) → portableAll attrs → ∀ indent, ∃ ms, ShowsAll attrs ms ∧
    (attrs.any isNamed → ∀ a, IsSpace a → Reads (membersAll indent true attrs ++ a) (.members ms))
  | [], _, _ => ⟨[], .nil, nofun⟩
  | (k, v) :: rest, h, indent => by
    rw [portableAll, Bool.and_eq_true, Bool.or_eq_true, Bool.and_eq_true] at h
    obtain ⟨hfirst, hrest⟩ := h
    obtain ⟨ms, hshows, hreads⟩ := reads_membersAll rest hrest indent
    by_cases hk : k = []
    · subst hk
      refine ⟨ms, .unnamed v hshows, fun hnamed a ha => ?_⟩
      rw [membersAll_unnamed]
      exact hreads hnamed a ha
    · obtain ⟨hkey, hvalue⟩ := hfirst.resolve_left (mt List.isEmpty_iff.mp hk)
      obtain ⟨x, hx, hshowsx⟩ := reads_object v hvalue (indent + 2)
      refine ⟨(k, x) :: ms, .named hk hshowsx hshows, fun _ a ha => ?_⟩
      rw [membersAll_named indent true hk, membersAll_false]
      cases hnamed : rest.any isNamed with
      | false =>
        have hmember := Reads.lastMember (reads_member hkey hx ha indent)
        rw [membersAll_of_unnamed hnamed, showsAll_unnamed hshows hnamed]
        simpa [onlyIf] using hmember
      | true =>
        have hmember := reads_member hkey hx (a := []) (fun _ hb => absurd hb List.not_mem_nil) indent
        have hmembers := Reads.nextMember hmember (hreads hnamed a ha)
        have hcomma : ofString "," = [byte ','] := rfl
        simpa [onlyIf, hcomma] using hmembers

end

/-! ## Values that are not -/

/-- From outside of strings, a walk through a text stops, or it comes out of it and something holds. -/
def Settles (p : Prop) (t : Text) : Prop :=
  ∀ l, walk (.outside l) t = none ∨ (p ∧ ∃ l', walk (.outside l) t = some (.outside l'))

section Settles

variable {p q : Prop} {t u : Text}

theorem settles_append (ht : Settles p t) (hu : Settles q u) : Settles (p ∧ q) (t ++ u) := by
  intro l
  rw [walk_append]
  rcases ht l with hnone | ⟨hp, l', hsome⟩
  · exact .inl (by rw [hnone, Option.bind_none])
  · rw [hsome, Option.bind_some]
    rcases hu l' with hnone | ⟨hq, hout⟩
    · exact .inl hnone
    · exact .inr ⟨⟨hp, hq⟩, hout⟩

theorem settles_of_crosses (ht : Crosses t) (hp : p) : Settles p t := fun l => .inr ⟨hp, ht l⟩

theorem settles_of_stops (h : ∀ l, walk (.outside l) t = none) : Settles p t := fun l => .inl (h l)

theorem Settles.mono (h : Settles p t) (hpq : p → q) : Settles q t :=
  fun l => (h l).imp_right fun ⟨hp, hout⟩ => ⟨hpq hp, hout⟩

/-- A walk comes out of the quoted form of portable texts only. -/
theorem settles_quote (t : Text) : Settles t.isPortable (quote t) := by
  cases h : t.isPortable with
  | false => exact settles_of_stops fun l => walk_quote h l
  | true => exact settles_of_crosses (crosses_isString (isString_quote h)) rfl

end Settles

theorem settles_of_isPortable {v : Value} (h : v.isPortable) (indent : Nat) :
    Settles v.isPortable (v.object indent) := by
  obtain ⟨_, hreads, -⟩ := reads_object v h indent
  exact settles_of_crosses (crosses_reads hreads) h

theorem settles_objectAll {p : Prop} {attrs : List (Text × Value)} {indent : Nat}
    (h : Settles p (membersAll indent true attrs)) : Settles p (objectAll indent attrs) := by
  have hbrace : Crosses "\x7b" ∧ Crosses "\x7d" := ⟨fun _ => ⟨false, rfl⟩, fun _ => ⟨false, rfl⟩⟩
  have hline : Crosses (onlyIf (attrs.any fun a => !a.1.isEmpty) ("\n" ++ List.replicate indent (byte ' '))) := by
    unfold onlyIf
    split
    · exact crosses_isSpace (isSpace_line indent)
    · exact fun l => ⟨l, rfl⟩
  have hobject := settles_append (settles_append (settles_append (settles_of_crosses hbrace.1 trivial) h)
    (settles_of_crosses hline trivial)) (settles_of_crosses hbrace.2 trivial)
  rw [objectAll]
  exact hobject.mono fun hp => hp.1.1.2

mutual

/-- A walk comes out of what is written for portable values only. -/
theorem settles_object : (v : Value) → ∀ indent, Settles v.isPortable (v.object indent)
  | .text t, indent => by
    simp only [Value.isPortable, Value.object, blockValue, if_true, block_quote]
    exact settles_quote t
  | .texts items, indent => by
    simp only [Value.isPortable, Value.object, blockValue, if_true, block_quote]
    exact settles_quote _
  | .error m, indent => by
    simp only [Value.isPortable, Value.object, blockValue, if_true, block_quote]
    exact settles_quote m
  | .float bits, indent => by
    cases h : Binary.isFinite bits with
    | false =>
      simp only [Value.object, blockValue, Value.plainText]
      exact settles_of_stops fun l => walk_nonfinite h l
    | true => exact settles_of_isPortable (by rwa [Value.isPortable]) indent
  | .duration ns, indent => by
    simp only [Value.object, blockValue, Value.plainText]
    exact settles_of_stops fun l => walk_durationText ns l
  | .time t, indent => by
    simp only [Value.object, blockValue]
    exact settles_of_stops fun l => walk_time t l
  | .int n, indent => settles_of_isPortable (by simp only [Value.isPortable]) indent
  | .uint n, indent => settles_of_isPortable (by simp only [Value.isPortable]) indent
  | .bool b, indent => settles_of_isPortable (by simp only [Value.isPortable]) indent
  | .null, indent => settles_of_isPortable (by simp only [Value.isPortable]) indent
  | .failure m attrs, indent => by
    rw [Value.isPortable, Value.object]
    exact settles_objectAll (settles_membersAll attrs indent true)
  | .group attrs, indent => by
    rw [Value.isPortable, Value.object]
    exact settles_objectAll (settles_membersAll attrs indent true)

/-- A walk comes out of the members for portable attributes only. -/
theorem settles_membersAll : (attrs : List (Text × Value)) → ∀ indent first,
    Settles (portableAll attrs) (membersAll indent first attrs)
  | [], indent, first => by
    rw [membersAll, portableAll]
    exact settles_of_crosses (fun l => ⟨l, rfl⟩) rfl
  | (k, v) :: rest, indent, first => by
    have hrest := settles_membersAll rest indent
    by_cases hk : k = []
    · subst hk
      rw [membersAll_unnamed, portableAll]
      exact hrest first
    · have hcomma : Crosses (onlyIf (!first) ",") := by
        cases first
        · exact fun _ => ⟨false, rfl⟩
        · exact fun l => ⟨l, rfl⟩
      have hcolon : Crosses ": " := fun _ => ⟨false, rfl⟩
      have hline := crosses_append hcomma (crosses_isSpace (isSpace_line (indent + 2)))
      have hmember := settles_append (settles_append (settles_append (settles_append (settles_of_crosses hline trivial)
        (settles_quote k)) (settles_of_crosses hcolon trivial)) (settles_object v (indent + 2))) (hrest false)
      rw [membersAll_named indent first hk, portableAll, List.append_assoc (onlyIf (!first) _)]
      refine hmember.mono fun ⟨⟨⟨⟨_, hkey⟩, _⟩, hvalue⟩, hmore⟩ => ?_
      rw [hkey, hvalue, hmore, Bool.and_self, Bool.or_true, Bool.and_self]

end

/-! ## Handlers -/

/-- What is laid down in a handler: more attributes for all of its records, or one more group around those to come. -/
inductive Extension where
  | attrs (as : List Attr)
  | group (name : Text)

/-- The path of the groups that are open after some more are opened. -/
def pathAfter (path : Text) : List Extension → Text
  | [] => path
  | .attrs _ :: es => pathAfter path es
  | .group name :: es => pathAfter (if name = [] then path else path ++ name ++ ".") es

/-- The attributes that are laid down, with the path of the groups that are open around each before its key. -/
def laidDown (path : Text) : List Extension → List Attr
  | [] => []
  | .attrs as :: es => (as.map fun a => (path ++ a.1, a.2)) ++ laidDown path es
  | .group name :: es => laidDown (if name = [] then path else path ++ name ++ ".") es

namespace Pretty

/-- The handler after something is laid down. -/
def extend (h : Pretty) : Extension → Pretty
  | .attrs as => h.withAttrs as
  | .group name => h.withGroup name

/-- The handler after some things are laid down, one after another. -/
def extendAll (h : Pretty) (es : List Extension) : Pretty := es.foldl extend h

theorem withGroup_eq (h : Pretty) (name : Text) :
    h.withGroup name = { h with path := if name = [] then h.path else h.path ++ name ++ "." } := by
  by_cases hname : name = []
  · rw [withGroup, if_pos (List.isEmpty_iff.mpr hname), if_pos hname]
  · rw [withGroup, if_neg (mt List.isEmpty_iff.mp hname), if_neg hname]

theorem extendAll_eq (h : Pretty) (es : List Extension) :
    h.extendAll es = { h with attrs := h.attrs ++ laidDown h.path es, path := pathAfter h.path es } := by
  induction es generalizing h with
  | nil => simp [extendAll, laidDown, pathAfter]
  | cons e es ih =>
    rw [extendAll, List.foldl_cons, ← extendAll, ih]
    cases e with
    | attrs as => simp [extend, withAttrs, qualify, laidDown, pathAfter]
    | group name => simp [extend, withGroup_eq, laidDown, pathAfter]

/-- What every record has. -/
def builtin (h : Pretty) (r : Record) : List Attr :=
  (if (h.stamp r).isEmpty then [] else [Attr.text "time" (h.stamp r)]) ++
    [Attr.text "level" (levelText r.message.level)] ++
    (if h.showsSource r then [Attr.text "source" sourceText] else []) ++ [Attr.text "msg" r.message.text]

theorem object_eq (h : Pretty) (r : Record) : h.object r = objectAll 0 (h.builtin r ++ h.allAttrs r) ++ "\n" := rfl

end Pretty

/-! ## What every record has is portable -/

/-- A text of shown ASCII characters. -/
def IsShown (t : Text) : Prop := ∀ b ∈ t, 0x20 ≤ b ∧ b < 0x7F

-- by the bytes of the text, and not by all bytes
instance (t : Text) : Decidable (IsShown t) :=
  decidable_of_iff ((t.all fun b => decide (0x20 ≤ b ∧ b < 0x7F)) = true)
    (by simp only [IsShown, List.all_eq_true, decide_eq_true_eq])

theorem isPortable_of_isShown {t : Text} (h : IsShown t) : t.isPortable := by
  have hbytes : ∀ n < 0x7F, 0x20 ≤ n → Symbol.isPortable ⟨Char.ofNat n, [UInt8.ofNat n]⟩ := by decide
  rw [Text.isPortable]
  induction t with
  | nil => rfl
  | cons b t ih =>
    obtain ⟨hlow, hhigh⟩ := h b List.mem_cons_self
    have hb := hbytes b.toNat (UInt8.lt_iff_toNat_lt.mp hhigh) (UInt8.le_iff_toNat_le.mp hlow)
    have hascii : b < 0x80 := UInt8.lt_trans hhigh (by decide)
    rw [UInt8.ofNat_toNat] at hb
    rw [symbols_cons, Symbol.first_of_ascii hascii, List.all_cons, hb, Bool.true_and]
    exact ih fun c hc => h c (List.mem_cons_of_mem _ hc)

theorem isShown_append {t u : Text} (ht : IsShown t) (hu : IsShown u) : IsShown (t ++ u) := by
  intro b hb
  rcases List.mem_append.mp hb with hb | hb
  · exact ht b hb
  · exact hu b hb

theorem isShown_ofInt (n : Int) : IsShown (Text.ofInt n) := by
  have hdigit : ∀ d < 10, 0x20 ≤ byte '0' + d.toUInt8 ∧ byte '0' + d.toUInt8 < 0x7F := by decide
  have hnat : ∀ n : Nat, IsShown (Text.ofNat n) := by
    intro n b hb
    rw [ofNat_eq_digitText] at hb
    obtain ⟨d, hd, rfl⟩ := List.mem_map.mp hb
    exact hdigit d (lt_ten_of_mem_digitsOf hd)
  cases n with
  | ofNat n => exact hnat n
  | negSucc n => exact isShown_append (t := [byte '-']) (by decide) (hnat (n + 1))

theorem isShown_toUpper {t : Text} (h : IsShown t) : IsShown (toUpper t) := by
  have hupper : ∀ n < 0x7F, 0x20 ≤ n → 0x20 ≤ (Unicode.toUpper (Char.ofNat n)).toNat ∧
      (Unicode.toUpper (Char.ofNat n)).toNat < 0x7F := by decide
  have hascii : ∀ b ∈ t, b < 0x80 := fun b hb => UInt8.lt_trans (h b hb).2 (by decide)
  intro b hb
  rw [toUpper, chars_of_ascii hascii, List.map_map] at hb
  obtain ⟨c, hc, hb⟩ := List.mem_flatMap.mp hb
  obtain ⟨a, ha, rfl⟩ := List.mem_map.mp hc
  obtain ⟨hlow, hhigh⟩ := hupper a.toNat (UInt8.lt_iff_toNat_lt.mp (h a ha).2) (UInt8.le_iff_toNat_le.mp (h a ha).1)
  have hmem : b ∈ ofChars [Unicode.toUpper (Char.ofNat a.toNat)] := by simpa [ofChars] using hb
  rw [UInt8.le_iff_toNat_le, UInt8.lt_iff_toNat_lt]
  rcases toNat_of_mem_ofChars hmem with heq | ⟨hge, -⟩
  · exact ⟨by rw [heq]; exact hlow, by rw [heq]; exact hhigh⟩
  · omega

theorem isShown_levelText (l : Level) : IsShown (Pretty.levelText l) := by
  have hnames : IsShown "trace" ∧ IsShown "debug" ∧ IsShown "info" ∧ IsShown "warn" ∧ IsShown "error" ∧
      IsShown "Level(" ∧ IsShown ")" := by decide
  obtain ⟨htrace, hdebug, hinfo, hwarn, herror, hopen, hclose⟩ := hnames
  refine isShown_toUpper ?_
  unfold Level.name
  split
  · exact htrace
  split
  · exact hdebug
  split
  · exact hinfo
  split
  · exact hwarn
  split
  · exact herror
  · exact isShown_append (isShown_append hopen (isShown_ofInt _)) hclose

theorem portableAll_append (as bs : List Attr) : portableAll (as ++ bs) = (portableAll as && portableAll bs) := by
  induction as with
  | nil => rw [List.nil_append, portableAll, Bool.true_and]
  | cons a as ih =>
    obtain ⟨k, v⟩ := a
    rw [List.cons_append, portableAll, portableAll, ih, Bool.and_assoc]

theorem portableAll_text {key : String} (hkey : (ofString key).isPortable) (hne : (ofString key).isEmpty = false)
    (t : Text) : portableAll [Attr.text key t] = t.isPortable := by
  rw [Attr.text, portableAll, portableAll, Value.isPortable, hkey, hne, Bool.false_or, Bool.true_and, Bool.and_true]

namespace Pretty

theorem portableAll_builtin (h : Pretty) (r : Record) :
    portableAll (h.builtin r) = ((h.stamp r).isPortable && r.message.text.isPortable) := by
  have hkeys : (ofString "time").isPortable ∧ (ofString "level").isPortable ∧ (ofString "source").isPortable ∧
      (ofString "msg").isPortable ∧ sourceText.isPortable := by decide
  obtain ⟨htime, hlevel, hsource, hmsg, hplace⟩ := hkeys
  have hstamp : portableAll (if (h.stamp r).isEmpty then [] else [Attr.text "time" (h.stamp r)]) =
      (h.stamp r).isPortable := by
    by_cases hnil : (h.stamp r).isEmpty
    · rw [if_pos hnil, List.isEmpty_iff.mp hnil]
      rfl
    · rw [if_neg hnil]
      exact portableAll_text htime rfl _
  have hshown : portableAll (if h.showsSource r then [Attr.text "source" sourceText] else []) = true := by
    split
    · rw [portableAll_text hsource rfl, hplace]
    · rfl
  rw [builtin, portableAll_append, portableAll_append, portableAll_append, hstamp, hshown,
    portableAll_text hlevel rfl, portableAll_text hmsg rfl, isPortable_of_isShown (isShown_levelText _), Bool.and_true,
    Bool.and_true]

/-- Whether all that a handler writes of a record is written as JSON. -/
def isPortable (h : Pretty) (r : Record) : Bool :=
  (h.stamp r).isPortable && r.message.text.isPortable && portableAll (h.allAttrs r)

theorem portableAll_fields (h : Pretty) (r : Record) :
    portableAll (h.builtin r ++ h.allAttrs r) = h.isPortable r := by
  rw [portableAll_append, portableAll_builtin, isPortable]

/-- What is written for a record is a JSON text only if all of it is portable. -/
theorem isPortable_of_isText {h : Pretty} {r : Record} {t : Text} {x : Tree} (hwrite : h.object r = t ++ "\n")
    (ht : IsText t x) : h.isPortable r := by
  have hwalk := walk_of_isText ht
  rw [object_eq] at hwrite
  rw [← List.append_cancel_right hwrite] at hwalk
  rcases settles_objectAll (settles_membersAll (h.builtin r ++ h.allAttrs r) 0 true) false with hnone | ⟨hportable, -⟩
  · rw [hnone] at hwalk
    exact nomatch hwalk
  · rwa [portableAll_fields] at hportable

/-- **Pretty objects are JSON texts if all that they say is portable.** Whatever attributes and groups were laid down in
a handler before, what it writes for a record is a JSON text and a line feed if and only if all texts that are written
are portable, all numbers are finite, and there are neither durations nor times. Then, and only then, it is an object
whose members are what every record has and all attributes that have a key, each with its value and in their order. -/
theorem write_isText (options : Options) (es : List Extension) (r : Record) :
    let h := extendAll { json := true, options } es
    h.allAttrs r = laidDown [] es ++ (r.message.attrs.filter fun a => !a.2.isEmptyGroup).map
      (fun a => (pathAfter [] es ++ a.1, a.2)) ∧
    (h.isPortable r ↔ ∃ t x, h.write r = t ++ "\n" ∧ IsText t x) ∧
    (h.isPortable r ↔ ∃ t ms, h.write r = t ++ "\n" ∧ IsText t (.object ms) ∧
      ShowsAll (h.builtin r ++ h.allAttrs r) ms) := by
  intro h
  have hextended : h = { json := true, options, attrs := laidDown [] es, path := pathAfter [] es } :=
    extendAll_eq _ es
  have hwrite : h.write r = h.object r := by rw [write, if_pos (by rw [hextended])]
  have hobject : h.isPortable r → ∃ t ms, h.write r = t ++ "\n" ∧ IsText t (.object ms) ∧
      ShowsAll (h.builtin r ++ h.allAttrs r) ms := by
    intro hportable
    rw [← portableAll_fields] at hportable
    obtain ⟨ms, hshows, hreads⟩ := reads_membersAll _ hportable 0
    have hnone : IsSpace [] := fun _ hb => absurd hb List.not_mem_nil
    rw [hwrite, object_eq]
    exact ⟨_, ms, rfl, ⟨[], _, [], by simp, hnone, reads_objectAll hshows hreads, hnone⟩, hshows⟩
  refine ⟨?_, ⟨fun hportable => ?_, ?_⟩, hobject, ?_⟩
  · rw [hextended, allAttrs, qualify]
  · obtain ⟨t, ms, htext, ht, -⟩ := hobject hportable
    exact ⟨t, .object ms, htext, ht⟩
  · rintro ⟨t, x, htext, ht⟩
    exact isPortable_of_isText (hwrite.symm.trans htext) ht
  · rintro ⟨t, ms, htext, ht, -⟩
    exact isPortable_of_isText (hwrite.symm.trans htext) ht

/-- A bell, a duration and a time are written as no JSON text has them. -/
theorem write_unreadable :
    let h : Pretty := { json := true, options := ⟨.info, false, []⟩ }
    let saying (v : Value) : Record := ⟨none, ⟨.info, "m", [("k", v)]⟩, false⟩
    let isJson (r : Record) : Prop := ∃ t x, h.write r = t ++ "\n" ∧ IsText t x
    ¬ isJson (saying (.text [7])) ∧ ¬ isJson (saying (.duration 1500000000)) ∧
      ¬ isJson (saying (.time ⟨0, 0, .utc⟩)) := by
  intro h saying isJson
  have hnone : ∀ v, h.isPortable (saying v) = false → ¬ isJson (saying v) := by
    rintro v hnot ⟨t, x, hwrite, ht⟩
    exact absurd (isPortable_of_isText hwrite ht) (Bool.eq_false_iff.mp hnot)
  refine ⟨hnone _ ?_, hnone _ ?_, hnone _ ?_⟩
  · decide
  · decide
  · decide

end Pretty

end Literate.Log
