import Literate.Command.Sources
import Literate.Proofs.Trails
import Mathlib.Data.List.Basic

/-!
# Which inputs are read

The paths of a command are resolved one after another. What is known of the files found so far (`Found.Covers`) is kept
by one more path (`Found.Covers.add`), and so by any number of them (`Found.Covers.resolve`), up to the first path that
leads to no file. The main statement is `resolve_reads`: every file that is named is read once, under its first name and
in the place of it, and the standard input comes last if it is read at all.
-/

namespace Literate.InputSource

open Text Log

variable {κ : Type} (key : Text → Except Text κ) (stdinKey : Option κ)

/-- A path is the name of a file with a key. -/
def Names (path : Text) (k : κ) : Prop := path ≠ stdinPath ∧ key path = .ok k

/-- A path names the standard input: it stands for it, or it is the name of a file that is the same. -/
def NamesStdin (path : Text) : Prop := path = stdinPath ∨ ∃ k, key path = .ok k ∧ stdinKey = some k

/-- A path leads to nothing. -/
def LeadsNowhere (path : Text) (cause : Text) : Prop := path ≠ stdinPath ∧ key path = .error cause

instance [DecidableEq κ] (k : κ) (path : Text) : Decidable (Names key path k) :=
  match h : key path with
  | .error _ => .isFalse fun hn => nomatch h.symm.trans hn.2
  | .ok l => decidable_of_iff (path ≠ stdinPath ∧ l = k) (and_congr_right fun _ => by rw [h, Except.ok.injEq])

variable [DecidableEq κ]

/-- What is known of the files found among paths. They are listed last first. -/
structure Found.Covers (paths : List Text) (f : Found κ) : Prop where
  named : ∀ e ∈ f.files, Names key e.1 e.2 ∧ stdinKey ≠ some e.2
  distinct : (f.files.map Prod.snd).Nodup
  first : ∀ e ∈ f.files, paths.find? (Names key · e.2) = some e.1
  ordered : f.files.Pairwise fun later e => paths.idxOf e.1 < paths.idxOf later.1
  covered : ∀ p ∈ paths, ∀ k, Names key p k → stdinKey = some k ∨ k ∈ f.files.map Prod.snd
  stdin : f.stdin = true ↔ ∃ p ∈ paths, NamesStdin key stdinKey p
  led : ∀ p ∈ paths, ∀ cause, ¬LeadsNowhere key p cause

variable {key stdinKey} {paths : List Text} {f g : Found κ}

namespace Found

theorem covers_empty : Covers key stdinKey [] {} where
  named _ he := absurd he List.not_mem_nil
  distinct := .nil
  first _ he := absurd he List.not_mem_nil
  ordered := .nil
  covered _ hp := absurd hp List.not_mem_nil
  stdin := by simp
  led _ hp := absurd hp List.not_mem_nil

theorem Covers.mem (h : f.Covers key stdinKey paths) {e : Text × κ} (he : e ∈ f.files) : e.1 ∈ paths :=
  List.mem_of_find?_eq_some (h.first e he)

/-- More paths after those that files were found among leave them the first of their keys, in the same order. -/
theorem Covers.first_append (h : f.Covers key stdinKey paths) (more : List Text) :
    ∀ e ∈ f.files, (paths ++ more).find? (Names key · e.2) = some e.1 := fun e he => by
  rw [List.find?_append, h.first e he, Option.some_or]

theorem Covers.ordered_append (h : f.Covers key stdinKey paths) (more : List Text) :
    f.files.Pairwise fun later e => (paths ++ more).idxOf e.1 < (paths ++ more).idxOf later.1 :=
  h.ordered.imp_of_mem fun hl he hlt => by
    rw [List.idxOf_append_of_mem (h.mem hl), List.idxOf_append_of_mem (h.mem he)]
    exact hlt

/-- One more path that names no new file. -/
theorem Covers.skip (h : f.Covers key stdinKey paths) {path : Text} {stdin : Bool}
    (hcovered : ∀ k, Names key path k → stdinKey = some k ∨ k ∈ f.files.map Prod.snd)
    (hled : ∀ cause, ¬LeadsNowhere key path cause)
    (hstdin : stdin = true ↔ f.stdin = true ∨ NamesStdin key stdinKey path) :
    Covers key stdinKey (paths ++ [path]) { f with stdin } where
  named := h.named
  distinct := h.distinct
  first := h.first_append [path]
  ordered := h.ordered_append [path]
  covered := List.forall_mem_append.mpr ⟨h.covered, List.forall_mem_singleton.mpr hcovered⟩
  stdin := by simp [hstdin, h.stdin, or_and_right, exists_or]
  led := List.forall_mem_append.mpr ⟨h.led, List.forall_mem_singleton.mpr hled⟩

/-- One more path that names a new file. -/
theorem Covers.list (h : f.Covers key stdinKey paths) {path : Text} {k : κ} (hk : Names key path k)
    (hs : stdinKey ≠ some k) (hnew : k ∉ f.files.map Prod.snd) :
    Covers key stdinKey (paths ++ [path]) { f with files := (path, k) :: f.files } := by
  have hfresh : ∀ p ∈ paths, ¬Names key p k := fun p hp hn => (h.covered p hp k hn).elim hs hnew
  have hnot : path ∉ paths := fun hp => hfresh path hp hk
  have hkey : ∀ l, key path = .ok l → l = k := fun l hl => Except.ok.inj (hl.symm.trans hk.2)
  constructor
  case named => exact List.forall_mem_cons.mpr ⟨⟨hk, hs⟩, h.named⟩
  case distinct => exact List.nodup_cons.mpr ⟨hnew, h.distinct⟩
  case first =>
    refine List.forall_mem_cons.mpr ⟨?_, h.first_append [path]⟩
    rw [List.find?_append, List.find?_eq_none.mpr (by simpa using hfresh)]
    simp [hk]
  case ordered =>
    refine List.pairwise_cons.mpr ⟨fun e he => ?_, h.ordered_append [path]⟩
    rw [List.idxOf_append_of_mem (h.mem he), List.idxOf_append_of_notMem hnot]
    exact Nat.lt_add_right _ (List.idxOf_lt_length_iff.mpr (h.mem he))
  case covered =>
    refine List.forall_mem_append.mpr ⟨fun p hp l hl => ?_, List.forall_mem_singleton.mpr fun l hl => ?_⟩
    · exact (h.covered p hp l hl).imp_right (List.mem_cons_of_mem _)
    · obtain rfl := hkey l hl.2
      exact Or.inr List.mem_cons_self
  case stdin =>
    have hpath : ¬NamesStdin key stdinKey path := by
      rintro (hp | ⟨l, hl, hls⟩)
      · exact hk.1 hp
      · exact hs (hkey l hl ▸ hls)
    simp [h.stdin, hpath, or_and_right, exists_or]
  case led =>
    refine List.forall_mem_append.mpr ⟨h.led, List.forall_mem_singleton.mpr fun cause hc => ?_⟩
    exact nomatch hc.2.symm.trans hk.2

/-- One more path: it leads to nothing, or what is known of the files is known of one path more. -/
theorem Covers.add (h : f.Covers key stdinKey paths) (path : Text) :
    match f.add key stdinKey path with
    | .error e => ∃ cause, LeadsNowhere key path cause ∧ e = .unreadableInput path cause
    | .ok g => g.Covers key stdinKey (paths ++ [path]) := by
  unfold Found.add
  by_cases hdash : path = stdinPath
  · rw [if_pos hdash]
    exact h.skip (fun k hk => absurd hdash hk.1) (fun cause hc => hc.1 hdash) (by simp [NamesStdin, hdash])
  rw [if_neg hdash]
  cases hkey : key path with
  | error cause => exact ⟨cause, ⟨hdash, hkey⟩, rfl⟩
  | ok k =>
    have hk : ∀ l, Names key path l → l = k := fun l hl => Except.ok.inj (hl.2.symm.trans hkey)
    have hled : ∀ cause, ¬LeadsNowhere key path cause := fun cause hc => nomatch hc.2.symm.trans hkey
    by_cases hs : stdinKey = some k
    · simp only [if_pos hs]
      exact h.skip (fun l hl => Or.inl (hk l hl ▸ hs)) hled (by simp [NamesStdin, hkey, hs])
    · have hstdin : ¬NamesStdin key stdinKey path := by
        rintro (hp | ⟨l, hl, hls⟩)
        · exact hdash hp
        · exact hs (hk l ⟨hdash, hl⟩ ▸ hls)
      by_cases hold : f.files.any (·.2 = k)
      · simp only [if_neg hs, if_pos hold]
        have hmem : k ∈ f.files.map Prod.snd := by simpa using hold
        exact h.skip (fun l hl => Or.inr (hk l hl ▸ hmem)) hled (by simp [hstdin])
      · simp only [if_neg hs, if_neg hold]
        exact h.list ⟨hdash, hkey⟩ hs (by simpa using hold)

/-- Any number of paths, up to the first that leads to nothing. -/
theorem Covers.addAll (h : f.Covers key stdinKey paths) (rest : List Text) :
    match rest.foldlM (Found.add key stdinKey) f with
    | .error e => ∃ before path after cause, rest = before ++ path :: after ∧
        (∀ p ∈ before, ∀ cause, ¬LeadsNowhere key p cause) ∧ LeadsNowhere key path cause ∧
        e = .unreadableInput path cause
    | .ok g => g.Covers key stdinKey (paths ++ rest) := by
  induction rest generalizing paths f with
  | nil =>
    rw [List.append_nil]
    exact h
  | cons path rest ih =>
    have hadd := h.add path
    rw [List.foldlM_cons]
    cases hp : f.add key stdinKey path with
    | error e =>
      rw [hp] at hadd
      obtain ⟨cause, hc, he⟩ := hadd
      exact ⟨[], path, rest, cause, rfl, fun _ hm => absurd hm List.not_mem_nil, hc, he⟩
    | ok g =>
      rw [hp] at hadd
      have hrest := ih hadd
      simp only [List.append_assoc, List.singleton_append] at hrest
      show match rest.foldlM (Found.add key stdinKey) g with | .error e => _ | .ok g => _
      cases hr : rest.foldlM (Found.add key stdinKey) g with
      | ok g' =>
        rw [hr] at hrest
        exact hrest
      | error e =>
        rw [hr] at hrest
        obtain ⟨before, p, after, cause, rfl, hbefore, hc, he⟩ := hrest
        refine ⟨path :: before, p, after, cause, rfl, List.forall_mem_cons.mpr ⟨?_, hbefore⟩, hc, he⟩
        exact hadd.led path (List.mem_append_right _ List.mem_cons_self)

end Found

variable (key stdinKey)

/-- What resolving paths leads to: they are refused for the first of them that leads to nothing, or the files found among
them are listed, first ones first. -/
theorem resolve_covers (hne : paths ≠ []) :
    match resolve key stdinKey paths with
    | .error e => ∃ before path after cause, paths = before ++ path :: after ∧
        (∀ p ∈ before, ∀ cause, ¬LeadsNowhere key p cause) ∧ LeadsNowhere key path cause ∧
        e = .unreadableInput path cause
    | .ok sources => ∃ f, Found.Covers key stdinKey paths f ∧
        sources = f.files.reverse.map (file ·.1) ++ if f.stdin then [stdin] else [] := by
  have hempty : Found.Covers key stdinKey [] {} := Found.covers_empty
  have hrun := hempty.addAll paths
  unfold resolve
  rw [if_neg hne]
  cases hr : paths.foldlM (Found.add key stdinKey) {} with
  | error e =>
    rw [hr] at hrun
    exact hrun
  | ok f =>
    rw [hr] at hrun
    exact ⟨f, hrun, rfl⟩

/-- **Every file is read once, and the standard input last.** Paths are refused if and only if one of them leads to
nothing, and the failure names the first such path. Otherwise they are resolved to some of them, the names of files, and
to the standard input after these if a path names it. The files have different keys, none of them that of the standard
input; each is listed under the first path with its key, in the order of these paths; and every path that names no
standard input has the key of one of them. -/
theorem resolve_reads (hne : paths ≠ []) :
    ((∃ f, resolve key stdinKey paths = .error f) ↔ ∃ p ∈ paths, p ≠ stdinPath ∧ ¬∃ k, key p = .ok k) ∧
    (∀ f, resolve key stdinKey paths = .error f → ∃ before path after cause, paths = before ++ path :: after ∧
      (∀ p ∈ before, p ≠ stdinPath → ∃ k, key p = .ok k) ∧ path ≠ stdinPath ∧ key path = .error cause ∧
      f.OfKind .unreadableInput ∧ f.attrs = [Attr.text "error" Fault.unreadableInput.message,
        Attr.text "cause" cause, Attr.text "file" path]) ∧
    ∀ sources, resolve key stdinKey paths = .ok sources → ∃ (entries : List (Text × κ)) (asked : Bool),
      sources = entries.map (file ·.1) ++ (if asked then [stdin] else []) ∧
      (asked ↔ ∃ p ∈ paths, NamesStdin key stdinKey p) ∧
      (∀ e ∈ entries, Names key e.1 e.2 ∧ stdinKey ≠ some e.2) ∧ (entries.map (·.2)).Nodup ∧
      (∀ e ∈ entries, paths.find? (Names key · e.2) = some e.1) ∧
      entries.Pairwise (fun e later => paths.idxOf e.1 < paths.idxOf later.1) ∧
      ∀ p ∈ paths, ∀ k, Names key p k → stdinKey ≠ some k → k ∈ entries.map (·.2) := by
  have hnowhere : ∀ p, (∀ cause, ¬LeadsNowhere key p cause) ↔ (p ≠ stdinPath → ∃ k, key p = .ok k) := fun p => by
    cases hk : key p with
    | error cause => simp [LeadsNowhere, hk]
    | ok k => simp [LeadsNowhere, hk]
  have hspec := resolve_covers key stdinKey hne
  cases hr : resolve key stdinKey paths with
  | error f =>
    rw [hr] at hspec
    obtain ⟨before, path, after, cause, hpaths, hbefore, ⟨hdash, hc⟩, rfl⟩ := hspec
    refine ⟨⟨fun _ => ⟨path, ?_, hdash, ?_⟩, fun _ => ⟨_, rfl⟩⟩, fun g hg => ?_, fun _ hs => nomatch hs⟩
    · rw [hpaths]
      exact List.mem_append_right _ List.mem_cons_self
    · rintro ⟨k, hk⟩
      exact nomatch hc.symm.trans hk
    · obtain rfl := Except.error.inj hg
      exact ⟨before, path, after, cause, hpaths, fun p hp => (hnowhere p).mp (hbefore p hp), hdash, hc,
        (Failure.unreadableInput_madeOf path cause).ofKind, Failure.attrs_own .unreadableInput _ _⟩
  | ok sources =>
    rw [hr] at hspec
    obtain ⟨f, hf, rfl⟩ := hspec
    refine ⟨⟨fun ⟨_, hg⟩ => (nomatch hg), fun ⟨p, hp, hdash, hnone⟩ => ?_⟩, fun _ hg => (nomatch hg), fun _ hs => ?_⟩
    · exact absurd ((hnowhere p).mp (hf.led p hp) hdash) hnone
    · obtain rfl := Except.ok.inj hs
      refine ⟨f.files.reverse, f.stdin, rfl, hf.stdin, ?_, ?_, ?_, List.pairwise_reverse.mpr hf.ordered, ?_⟩
      · exact fun e he => hf.named e (List.mem_reverse.mp he)
      · rw [List.map_reverse]
        exact List.nodup_reverse.mpr hf.distinct
      · exact fun e he => hf.first e (List.mem_reverse.mp he)
      · intro p hp k hk hs
        rw [List.map_reverse, List.mem_reverse]
        exact (hf.covered p hp k hk).resolve_left hs

/-- Two names of one file, another file, and the standard input under the name of a file. -/
def aliasKey : Text → Except Text Nat := fun path =>
  if path = ("a" : Text) ∨ path = ("link" : Text) then .ok 1
  else if path = ("b" : Text) then .ok 2
  else if path = ("/dev/stdin" : Text) then .ok 0
  else .error "missing"

/-- Paths with all of these names. -/
def aliases : List Text := ["-", "b", "link", "/dev/stdin", "a", "b"]

/-- Of two names of a file the first one is listed, and the standard input is last, under whatever name. -/
theorem resolve_reads_aliases :
    aliases ≠ [] ∧ resolve aliasKey (some 0) aliases = .ok [file "b", file "link", stdin] ∧
    ∃ (entries : List (Text × Nat)) (asked : Bool),
      [file "b", file "link", stdin] = entries.map (file ·.1) ++ (if asked then [stdin] else []) ∧
      (asked ↔ ∃ p ∈ aliases, NamesStdin aliasKey (some 0) p) ∧ (entries.map (·.2)).Nodup := by
  have hne : aliases ≠ [] := by decide
  have hr : resolve aliasKey (some 0) aliases = .ok [file "b", file "link", stdin] := by rfl
  obtain ⟨_, _, hlists⟩ := resolve_reads aliasKey (some 0) hne
  obtain ⟨entries, asked, hsources, hasked, _, hdistinct, _⟩ := hlists _ hr
  exact ⟨hne, hr, entries, asked, hsources, hasked, hdistinct⟩

end Literate.InputSource
