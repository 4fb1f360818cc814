import Literate.Proofs.Suppression
import Mathlib.Data.List.Induction

/-!
# Files that are left alone

A dispatcher can leave files alone that have their texts already. Its run is compared with that of one that writes them
again. What stands where is the same for both after each request (`Host.Alike`), except that they log different
messages, so the texts of a file to which records are appended may differ. Since a path leads to the same location on
disks that have grown into one another (`Disk.Grows.place`), through whatever links and further names, a write that one
of them leaves out would have given the file the text that it has.

A file can only be compared with a text if it can be read to its end. The main statement is
`Dispatcher.dispatch_skipping`, and `Dispatcher.dispatch_skipping_observable` says why it asks for this, and why it leaves
out the file to which records are appended.
-/

namespace Literate

open Text Log

/-! ## Disks that look the same to paths -/

namespace Disk

/-- Each of two disks has grown into the other: the same stands at all locations, except that one file may have
different texts. -/
structure SameExcept (file : Option Location) (d e : Disk) : Prop where
  forth : d.Grows e
  back : e.Grows d
  find : ∀ l, file ≠ some l → d.find? l = e.find? l

namespace SameExcept

variable {file : Option Location} {d e : Disk}

theorem refl (d : Disk) : SameExcept file d d := ⟨.refl d, .refl d, fun _ _ => rfl⟩

/-- The one file is written. -/
theorem fill_file {l : Location} (h : SameExcept (some l) d e) (t u : Text) :
    SameExcept (some l) (d.fill l t) (e.fill l u) := by
  refine ⟨h.forth.fill_fill l t u, h.back.fill_fill l u t, fun k hk => ?_⟩
  have hne : k ≠ l := fun he => hk (congrArg some he.symm)
  rw [find?_fill, find?_fill, if_neg fun hl => hne hl.1, if_neg fun hl => hne hl.1, h.find k hk]

/-- Any file is written. -/
theorem fill (h : SameExcept file d e) (l : Location) (t : Text) : SameExcept file (d.fill l t) (e.fill l t) := by
  refine ⟨h.forth.fill_fill l t t, h.back.fill_fill l t t, fun k hk => ?_⟩
  rw [find?_fill, find?_fill, (h.forth.nodes l).isFillable_eq, h.find k hk]

/-- A file or a device is written on one disk that has the same text on the other. -/
theorem fill_right (h : SameExcept file d e) {l : Location} {t : Text} (hl : d.text? l = some t) :
    SameExcept file d (e.fill l t) := by
  have hfill : ∀ k, k = l ∧ Node.isFillable (e.find? l) = true → d.find? k = some (.file t) := by
    rintro k ⟨rfl, hk⟩
    exact find?_of_text? ((h.forth.nodes k).isFillable_eq.symm.trans hk) hl
  refine ⟨h.forth.trans (.fill e l t), ⟨?_, ?_, fun k => ?_⟩, fun k hk => ?_⟩
  · rw [fill_here, h.back.here]
  · rw [fill_sealed, h.back.sealed]
  · rw [find?_fill]
    split
    · rw [hfill k ‹_›]
      exact .same _
    · exact h.back.nodes k
  · rw [find?_fill]
    split
    · exact hfill k ‹_›
    · exact h.find k hk

/-- A path leads to the same location on both disks, or nowhere on both. -/
theorem locate_iff (h : SameExcept file d e) {path : Text} {l : Location} :
    d.locate path = .ok l ↔ e.locate path = .ok l := ⟨h.forth.resolve, h.back.resolve⟩

/-- What has been written so far makes no difference. -/
theorem modify (h : SameExcept file d e) (x y : List (Location × Text)) :
    SameExcept file { d with saved := x } { e with saved := y } :=
  ⟨⟨h.forth.here, h.forth.sealed, h.forth.nodes⟩, ⟨h.back.here, h.back.sealed, h.back.nodes⟩, h.find⟩

end SameExcept

end Disk

/-! ## Logs -/

/-- To which outputs a message goes depends on its level alone. -/
theorem Log.Logger.outputs_say (logger : Logger) (level : Level) (text text' : Text) (attrs attrs' : List Attr) :
    (logger.say ⟨level, text, attrs⟩).map Prod.fst = (logger.say ⟨level, text', attrs'⟩).map Prod.fst := by
  unfold Logger.say Logger.write
  rw [List.map_filterMap, List.map_filterMap]
  congr 1
  funext ⟨out, handler⟩
  dsimp only
  split
  · cases out <;> rfl
  · rfl

namespace Host

/-- A host logs messages and compares texts in the way in which another one does. -/
structure SetUpAs (s h : Host) : Prop where
  logger : s.logger = h.logger
  logFile : s.logFile = h.logFile
  digest : s.digest = h.digest

/-- A record changes neither these ways nor what has been written so far. -/
theorem record_keeps {h s : Host} (hs : s.SetUpAs h) (output : Nat) (t : Text) :
    (s.record output t).SetUpAs h ∧ (s.record output t).disk.saved = s.disk.saved := by
  unfold record
  split
  · exact ⟨⟨hs.logger, hs.logFile, hs.digest⟩, rfl⟩
  · split
    · exact ⟨hs, rfl⟩
    · exact ⟨⟨hs.logger, hs.logFile, hs.digest⟩, Disk.fill_saved _ _ _⟩

theorem say_keeps {h s : Host} (hs : s.SetUpAs h) (level : Level) (text : Text) (attrs : List Attr) :
    (s.say level text attrs).SetUpAs h ∧ (s.say level text attrs).disk.saved = s.disk.saved := by
  refine say_induction (motive := fun t => t.SetUpAs h ∧ t.disk.saved = s.disk.saved) ⟨hs, rfl⟩ ?_ level text attrs
  rintro t ⟨ht, hsaved⟩ output u
  obtain ⟨hrecord, hsaved'⟩ := record_keeps ht output u
  exact ⟨hrecord, hsaved'.trans hsaved⟩

/-! ## Hosts with the same files -/

/-- The host after a text is written to a file in place of its own. -/
def saving (h : Host) (l : Location) (text : Text) : Host :=
  { h with disk := { h.disk.fill l text with saved := h.disk.saved ++ [(l, text)] } }

/-- Two hosts are set up like a third one. What stood on its disk has stayed on theirs, and the same stands at all of
their locations, except that the file to which records are appended may have different texts. -/
structure Alike (h s t : Host) : Prop where
  left : s.SetUpAs h
  right : t.SetUpAs h
  disks : Disk.SameExcept h.logFile s.disk t.disk
  grows : h.disk.Grows s.disk

namespace Alike

variable {h s t : Host}

theorem refl (h : Host) : h.Alike h h := ⟨⟨rfl, rfl, rfl⟩, ⟨rfl, rfl, rfl⟩, .refl _, .refl _⟩

theorem record (ha : h.Alike s t) (output : Nat) (x y : Text) : h.Alike (s.record output x) (t.record output y) := by
  refine ⟨(record_keeps ha.left output x).1, (record_keeps ha.right output y).1, ?_,
    ha.grows.trans (OnlyLogs.record s output x).grows⟩
  have hdisks := ha.disks
  by_cases ho : output = primaryOutput
  · rw [Host.record, Host.record, if_pos ho, if_pos ho]
    exact hdisks
  · rw [Host.record, Host.record, if_neg ho, if_neg ho, ha.left.logFile, ha.right.logFile]
    generalize h.logFile = file at hdisks ⊢
    cases file with
    | none => exact hdisks
    | some l => exact hdisks.fill_file _ _

/-- Messages of one level, whatever they are, go to the same outputs. -/
theorem say (ha : h.Alike s t) (level : Level) (x y : Text) (attrs attrs' : List Attr) :
    h.Alike (s.say level x attrs) (t.say level y attrs') := by
  have houtputs := s.logger.outputs_say level x y attrs attrs'
  unfold Host.say
  rw [ha.right.logger, ← ha.left.logger]
  generalize s.logger.say ⟨level, x, attrs⟩ = lines at houtputs
  generalize s.logger.say ⟨level, y, attrs'⟩ = lines' at houtputs
  induction lines generalizing lines' s t with
  | nil =>
    obtain rfl := List.map_eq_nil_iff.mp houtputs.symm
    exact ha
  | cons line lines ih =>
    obtain ⟨⟨output, u⟩, lines', rfl, rfl, hlines⟩ := List.map_eq_cons_iff.mp houtputs.symm
    exact ih (ha.record line.1 line.2 u) lines' hlines.symm

/-- Both write a text to a file. -/
theorem saving (ha : h.Alike s t) (l : Location) (text : Text) : h.Alike (s.saving l text) (t.saving l text) :=
  ⟨⟨ha.left.logger, ha.left.logFile, ha.left.digest⟩, ⟨ha.right.logger, ha.right.logFile, ha.right.digest⟩,
    (ha.disks.fill l text).modify _ _, ha.grows.trans ((Disk.Grows.fill _ l text).modify _)⟩

/-- One of them writes to a file the text that it has for the other. -/
theorem saving_right (ha : h.Alike s t) {l : Location} {text : Text} (hl : s.disk.text? l = some text) :
    h.Alike s (t.saving l text) :=
  ⟨ha.left, ⟨ha.right.logger, ha.right.logFile, ha.right.digest⟩, (ha.disks.fill_right hl).modify _ _, ha.grows⟩

end Alike

end Host

/-! ## Sinks that leave files alone -/

/-- The text under a path is a given one if it has the same length and the same digest. -/
def Disk.TellsApart (d : Disk) (digest : Text → Text) (path text : Text) : Prop :=
  ∀ t, d.textUnder? path = some t → t.length = text.length → digest t = digest text → t = text

namespace Sink

/-- A path that can be read to its end has a text, or not. -/
theorem isUnchanged?_eq {digest : Text → Text} {d : Disk} {path text : Text} (hend : d.isEndless path = false)
    (htold : d.TellsApart digest path text) :
    isUnchanged? digest d path text = some (decide (d.textUnder? path = some text)) := by
  unfold isUnchanged?
  rw [if_neg (Bool.eq_false_iff.mp hend)]
  cases ht : d.textUnder? path with
  | none => rfl
  | some u =>
    refine congrArg some (decide_eq_decide.mpr ?_)
    rw [Option.some.injEq]
    exact ⟨fun ⟨hlength, hdigest⟩ => htold u ht hlength hdigest, fun hu => hu ▸ ⟨rfl, rfl⟩⟩

variable {h s t : Host} {path text : Text} {l : Location}

/-- A file that is written has a place, and is not a device without space. -/
theorem place_of_writeFile {name : Text} (hw : (writeFile path s name text).2 = none) :
    ∃ l, s.disk.place path = .ok l ∧ ∀ v, s.disk.find? l = some (.device v) → v.takes = true := by
  unfold writeFile at hw
  cases hwrite : s.disk.write path text with
  | error trouble => rw [hwrite] at hw; exact nomatch hw
  | ok disk =>
    obtain ⟨l, hp, htakes, -⟩ := Disk.write_eq_ok_iff.mp hwrite
    exact ⟨l, hp, htakes⟩

/-- A file that has a place is written. -/
theorem writeFile_of_place (name : Text) (hp : s.disk.place path = .ok l)
    (htakes : ∀ v, s.disk.find? l = some (.device v) → v.takes = true) :
    writeFile path s name text =
      ((s.saving l text).say .debug "wrote"
        [Attr.text "name" name, Attr.text "path" path, Attr.int "bytes" text.length], none) := by
  unfold writeFile
  rw [Disk.write_eq_ok_iff.mpr ⟨l, hp, htakes, rfl⟩]
  rfl

/-- A file is left alone if and only if it has the text, and then writing it would have changed nothing else. -/
theorem write_alike (ha : h.Alike s t) (hend : s.disk.isEndless path = false)
    (htold : s.disk.TellsApart h.digest path text) (live : Bool) {name : Text}
    (hw : ((file path false).write live t name text).2 = none) :
    let o := (file path true).write live s name text
    o.2 = none ∧ h.Alike o.1 ((file path false).write live t name text).1 ∧
      ∃ l, s.disk.place path = .ok l ∧
        o.1.disk.saved = s.disk.saved ++ if s.disk.textUnder? path = some text then [] else [(l, text)] := by
  intro o
  obtain ⟨l, hp, htakes⟩ := place_of_writeFile (show (writeFile path t name text).2 = none from hw)
  have hp' : s.disk.place path = .ok l := ha.disks.back.place hp
  have htakes' : ∀ v, s.disk.find? l = some (.device v) → v.takes = true := fun v hv =>
    htakes v ((ha.disks.forth.find?_eq_of_not_isFillable (by rw [hv]; rfl)).trans hv)
  rw [show (file path false).write live t name text = _ from writeFile_of_place name hp htakes]
  have hunchanged := isUnchanged?_eq hend htold
  rw [← ha.left.digest] at hunchanged
  by_cases hu : s.disk.textUnder? path = some text
  -- The file that was read is the one that the other run writes.
  · rw [decide_eq_true hu] at hunchanged
    have ho : o = (s.say .debug "unchanged" [Attr.text "name" name, Attr.text "path" path], none) := by
      show write _ live s name text = _
      unfold write
      dsimp only
      rw [if_pos rfl, hunchanged]
    rw [ho]
    refine ⟨rfl, (ha.saving_right (Disk.text?_of_textUnder? hp' hu)).say _ _ _ _ _, l, hp', ?_⟩
    rw [if_pos hu, List.append_nil]
    exact (Host.say_keeps ha.left _ _ _).2
  · rw [decide_eq_false hu] at hunchanged
    have ho : o = writeFile path s name text := by
      show write _ live s name text = _
      unfold write
      dsimp only
      rw [if_pos rfl, hunchanged]
    have halike := ha.saving l text
    rw [ho, writeFile_of_place name hp' htakes']
    refine ⟨rfl, halike.say _ _ _ _ _, l, hp', ?_⟩
    rw [if_neg hu]
    exact (Host.say_keeps halike.left _ _ _).2

end Sink

/-! ## Runs that leave files alone -/

namespace Dispatcher

variable (d : Dispatcher) (render : Ref → Except Stop Text)

/-- The dispatcher that leaves files alone that have their texts. -/
def skipping : Dispatcher := { d with skipUnchanged := true }

/-- The dispatcher that writes all files. -/
def rewriting : Dispatcher := { d with skipUnchanged := false }

/-- The host when it hands over the text of a request. -/
def announced (h : Host) (q : Request) : Host := h.say .debug "dispatch" (requestAttrs q)

/-- The host after requests are carried out by the dispatcher that leaves files alone. -/
def after (h : Host) (requests : List Request) : Host :=
  (d.skipping.dispatch (Host.effects true) render true h requests).1

/-- Different texts of the same length have different digests, if they are compared while requests are carried out. -/
def TellsApart (h : Host) (requests : List Request) : Prop :=
  ∀ before q rest text, requests = before ++ q :: rest → d.suppresses q = false → render q.ref = .ok text →
    (announced (d.after render h before) q).disk.TellsApart h.digest q.target text

/-- What a request writes. A suppressed one writes nothing. Any other one writes its text if and only if its path does not
lead to a file that can be read and has this text, and the file takes the text. -/
structure WritesIfNeeded (q : Request) (h h' : Host) : Prop where
  suppressed : d.suppresses q = true → h'.disk.saved = h.disk.saved
  takes : ∀ text, d.suppresses q = false → render q.ref = .ok text →
    Sink.Takes text (announced h q) h' (.file q.target true)
  carriedOut : ∀ text, d.suppresses q = false → render q.ref = .ok text →
    ∃ l, (announced h q).disk.place q.target = .ok l ∧
      h'.disk.saved = h.disk.saved ++
        if (announced h q).disk.textUnder? q.target = some text then [] else [(l, text)]

variable {d render} {h s t : Host} {q : Request} {requests : List Request}

theorem sink_skipping (hq : q.action = .output) : d.skipping.sink q = .file q.target true := by
  unfold sink
  rw [hq]
  rfl

theorem sink_rewriting (hq : q.action = .output) : d.rewriting.sink q = .file q.target false := by
  unfold sink
  rw [hq]
  rfl

/-- **One request** leaves files alike. -/
theorem carryOut_alike (ha : h.Alike s t) (hq : q.action = .output)
    (hend : d.suppresses q = false → h.disk.isEndless q.target = false)
    (htold : ∀ text, d.suppresses q = false → render q.ref = .ok text →
      (announced s q).disk.TellsApart h.digest q.target text)
    (hplain : (d.rewriting.carryOut (Host.effects true) render true t q).2 = none) :
    let o := d.skipping.carryOut (Host.effects true) render true s q
    o.2 = none ∧ h.Alike o.1 (d.rewriting.carryOut (Host.effects true) render true t q).1 ∧
      d.WritesIfNeeded render q s o.1 := by
  intro o
  cases hs : d.suppresses q with
  | true =>
    have ho : o = (s.say .debug "suppressed" (requestAttrs q), none) := carryOut_of_suppresses _ _ _ _ hs
    rw [ho, carryOut_of_suppresses _ _ _ _ (show d.rewriting.suppresses q = true from hs)]
    exact ⟨rfl, ha.say _ _ _ _ _, fun _ => (Host.say_keeps ha.left _ _ _).2, fun _ hs' => (nomatch hs.symm.trans hs'),
      fun _ hs' => nomatch hs.symm.trans hs'⟩
  | false =>
    cases hr : render q.ref with
    | error stop =>
      rw [carryOut_of_error _ _ _ _ (show d.rewriting.suppresses q = false from hs) hr] at hplain
      exact nomatch hplain
    | ok text =>
      have ho : o = _ := carryOut_of_ok _ _ _ _ (show d.skipping.suppresses q = false from hs) hr
      rw [sink_skipping hq] at ho
      rw [carryOut_of_ok _ _ _ _ (show d.rewriting.suppresses q = false from hs) hr, sink_rewriting hq] at hplain ⊢
      have hannounced : h.Alike (announced s q) (announced t q) := ha.say _ _ _ _ _
      -- The path leads to no other device than at first.
      have hend' : (announced s q).disk.isEndless q.target = false :=
        Bool.eq_false_iff.mpr fun he => Bool.false_ne_true ((hend hs).symm.trans (hannounced.grows.isEndless_back he))
      obtain ⟨hstop, halike, l, hplace, hsaved⟩ := Sink.write_alike hannounced hend' (htold text hs hr) true hplain
      rw [ho]
      refine ⟨hstop, halike, fun hs' => (nomatch hs'.symm.trans hs), fun text' _ hr' => ?_, fun text' _ hr' => ?_⟩
      all_goals obtain rfl := Except.ok.inj (hr.symm.trans hr')
      · exact Sink.takes_of_write hstop
      · exact ⟨l, hplace, hsaved.trans (congrArg (· ++ _) (Host.say_keeps ha.left _ _ _).2)⟩

section Runs

variable {σ : Type} {effects : Effects σ} {x : σ} {before rest : List Request}

theorem dispatch_singleton : d.dispatch effects render true x [q] = d.carryOut effects render true x q := by
  unfold dispatch
  generalize d.carryOut effects render true x q = o
  obtain ⟨x', _ | stop⟩ := o
  · rfl
  · rfl

theorem none_of_dispatch_append (h : (d.dispatch effects render true x (before ++ rest)).2 = none) :
    (d.dispatch effects render true x before).2 = none := by
  rw [dispatch_append] at h
  generalize d.dispatch effects render true x before = o at h
  obtain ⟨x', _ | stop⟩ := o
  · rfl
  · exact h

/-- Requests after which nothing has stopped the run are followed by the others. -/
theorem dispatch_append_of_none (h : (d.dispatch effects render true x before).2 = none) :
    d.dispatch effects render true x (before ++ rest) =
      d.dispatch effects render true (d.dispatch effects render true x before).1 rest := by
  rw [dispatch_append]
  generalize d.dispatch effects render true x before = o at h
  obtain ⟨x', _ | stop⟩ := o
  · rfl
  · exact nomatch h

end Runs

theorem TellsApart.of_append {more : List Request} (htold : d.TellsApart render h (requests ++ more)) :
    d.TellsApart render h requests := by
  rintro before q rest text rfl
  exact htold before q (rest ++ more) text (by rw [List.append_assoc, List.cons_append])

/-- **All requests** leave files alike. -/
theorem dispatch_alike (houtput : ∀ q ∈ requests, q.action = .output)
    (hend : ∀ q ∈ requests, d.suppresses q = false → h.disk.isEndless q.target = false)
    (htold : d.TellsApart render h requests)
    (hplain : (d.rewriting.dispatch (Host.effects true) render true h requests).2 = none) :
    (d.skipping.dispatch (Host.effects true) render true h requests).2 = none ∧
      h.Alike (d.after render h requests)
        (d.rewriting.dispatch (Host.effects true) render true h requests).1 := by
  unfold after
  -- From the end, so that what the last request meets is what all before it leave behind.
  induction requests using List.reverseRecOn with
  | nil => exact ⟨rfl, .refl h⟩
  | append_singleton before q ih =>
    have hbefore := none_of_dispatch_append hplain
    obtain ⟨hstop, halike⟩ := ih (fun p hp => houtput p (List.mem_append_left _ hp))
      (fun p hp => hend p (List.mem_append_left _ hp)) htold.of_append hbefore
    rw [dispatch_append_of_none hbefore, dispatch_singleton] at hplain ⊢
    rw [dispatch_append_of_none hstop, dispatch_singleton]
    obtain ⟨hnone, halike', _⟩ := carryOut_alike halike (houtput q (List.mem_append_right _ List.mem_cons_self))
      (hend q (List.mem_append_right _ List.mem_cons_self)) (fun text => htold before q [] text rfl) hplain
    exact ⟨hnone, halike'⟩

/-- **To leave files alone that have their texts changes no file.** Suppose that all requests ask for files to be
written, that a run in which all of them are written succeeds, that none of their paths leads to a device that can be
read without end, and that digests tell the texts apart that are compared. Then the run in which files are left alone
succeeds too. The same stands at all locations after both, and each path leads to the same location, even if several
requests name one file, under whatever paths; only the file to which records are appended may differ. And each request in
its turn writes its text if and only if its path does not lead to a file that can be read and has this text at that
moment. -/
theorem dispatch_skipping (houtput : ∀ q ∈ requests, q.action = .output)
    (hplain : (d.rewriting.dispatch (Host.effects true) render true h requests).2 = none)
    (hend : ∀ q ∈ requests, d.suppresses q = false → h.disk.isEndless q.target = false)
    (htold : d.TellsApart render h requests) :
    (d.skipping.dispatch (Host.effects true) render true h requests).2 = none ∧
      (∀ l, h.logFile ≠ some l → (d.after render h requests).disk.find? l =
        (d.rewriting.dispatch (Host.effects true) render true h requests).1.disk.find? l) ∧
      (∀ path l, (d.after render h requests).disk.locate path = .ok l ↔
        (d.rewriting.dispatch (Host.effects true) render true h requests).1.disk.locate path = .ok l) ∧
      ∀ before q rest, requests = before ++ q :: rest →
        d.WritesIfNeeded render q (d.after render h before) (d.after render h (before ++ [q])) := by
  obtain ⟨hstop, halike⟩ := dispatch_alike houtput hend htold hplain
  refine ⟨hstop, halike.disks.find, fun _ _ => halike.disks.locate_iff, ?_⟩
  rintro before q rest rfl
  have hsnoc : (d.rewriting.dispatch (Host.effects true) render true h (before ++ [q])).2 = none :=
    none_of_dispatch_append (by rw [List.append_assoc]; exact hplain)
  have hbefore := none_of_dispatch_append hsnoc
  rw [dispatch_append_of_none hbefore, dispatch_singleton] at hsnoc
  have hq : q ∈ before ++ q :: rest := List.mem_append_right _ List.mem_cons_self
  obtain ⟨hgo, hmet⟩ := dispatch_alike (fun p hp => houtput p (List.mem_append_left _ hp))
    (fun p hp => hend p (List.mem_append_left _ hp)) htold.of_append hbefore
  have hwrites := (carryOut_alike hmet (houtput q hq) (hend q hq) (fun text => htold before q rest text rfl) hsnoc).2.2
  rw [after, after, dispatch_append_of_none hgo, dispatch_singleton]
  exact hwrites

/-- A file with a link to it and a further name, a file with the same text that cannot be read, and a digest of eight
bytes. -/
def sharedFiles : Host where
  disk := {
    nodes := [(["a"], .file "one"), (["b"], .file "one"), (["link"], .link "./a"), (["twin"], .twin ["a"])],
    sealed := [["b"]] }
  digest := List.take 8

/-- A request of the command line for a file with the name of the chunk in it. -/
def fileOf (name target : String) : Request := ⟨.output, ⟨.chunk, name⟩, target, .command, .zero⟩

/-- The text of a chunk is its name. -/
def namesake : Ref → Except Stop Text := fun ref => .ok ref.name

/-- Digests of eight bytes tell short names apart. -/
theorem tellsApart_of_short {digest : Text → Text} (hdigest : ∀ text, text.length ≤ 8 → digest text = text)
    (h : Host) (hh : h.digest = digest) (d : Dispatcher) (hshort : ∀ q ∈ requests, q.ref.name.length ≤ 8) :
    d.TellsApart namesake h requests := by
  intro before q rest text hsplit _ hr t _ hlength ht
  obtain rfl := Except.ok.inj hr
  have hname := hshort q (hsplit ▸ List.mem_append_right _ List.mem_cons_self)
  rwa [hh, hdigest _ hname, hdigest _ (hlength ▸ hname)] at ht

/-- Texts are written to a file under three names, to a file that cannot be read, to a new file, and to a device. -/
theorem dispatch_skipping_turns :
    let d : Dispatcher := {}
    let requests := [fileOf "one" "a", fileOf "two" "link", fileOf "two" "twin", fileOf "one" "a", fileOf "one" "b",
      fileOf "one" "c", fileOf "one" "c", fileOf "one" "/dev/null"]
    (∀ q ∈ requests, q.action = .output) ∧
      (d.rewriting.dispatch (Host.effects true) namesake true sharedFiles requests).2 = none ∧
      (∀ q ∈ requests, d.suppresses q = false → sharedFiles.disk.isEndless q.target = false) ∧
      d.TellsApart namesake sharedFiles requests ∧
      (d.skipping.dispatch (Host.effects true) namesake true sharedFiles requests).2 = none ∧
      (∀ l, (d.after namesake sharedFiles requests).disk.find? l =
        (d.rewriting.dispatch (Host.effects true) namesake true sharedFiles requests).1.disk.find? l) ∧
      (d.after namesake sharedFiles requests).disk.saved =
        ([(["a"], "two"), (["a"], "one"), (["b"], "one"), (["c"], "one"), (Disk.null, "one")] :
          List (Location × Text)) := by
  intro d requests
  have houtput : ∀ q ∈ requests, q.action = .output := by decide
  have hplain : (d.rewriting.dispatch (Host.effects true) namesake true sharedFiles requests).2 = none :=
    Option.isNone_iff_eq_none.mp (by decide +kernel)
  have hend : ∀ q ∈ requests, d.suppresses q = false → sharedFiles.disk.isEndless q.target = false := by decide +kernel
  have htold : d.TellsApart namesake sharedFiles requests :=
    tellsApart_of_short (fun _ => List.take_of_length_le) sharedFiles rfl d (by decide)
  obtain ⟨hstop, hfind, -⟩ := dispatch_skipping houtput hplain hend htold
  exact ⟨houtput, hplain, hend, htold, hstop, fun l => hfind l (fun h => nomatch h), by decide +kernel⟩

/-- A host with a file that has its text already, and with a log of all messages in another file. -/
def loggingHost : Host where
  disk := { nodes := [(["a"], .file "one")] }
  logger := .make none [.level .debug, .tee (some fileOutput) .json]
  logFile := some ["log"]

/-- **That files are left alone shows in two ways.** A run that would write to a device without end does not end, since
the device is read first. And a log says that a file was left alone. -/
theorem dispatch_skipping_observable :
    let d : Dispatcher := {}
    let endless := [fileOf "one" "/dev/zero"]
    let logged := [fileOf "one" "a"]
    ((∀ q ∈ endless, q.action = .output) ∧ d.TellsApart namesake {} endless ∧
      (d.rewriting.dispatch (Host.effects true) namesake true {} endless).2 = none ∧
      (d.skipping.dispatch (Host.effects true) namesake true {} endless).2 = some .endless) ∧
    (∀ q ∈ logged, q.action = .output) ∧ d.TellsApart namesake loggingHost logged ∧
      (d.rewriting.dispatch (Host.effects true) namesake true loggingHost logged).2 = none ∧
      (d.skipping.dispatch (Host.effects true) namesake true loggingHost logged).2 = none ∧
      (d.after namesake loggingHost logged).disk.text? ["log"] ≠
        (d.rewriting.dispatch (Host.effects true) namesake true loggingHost logged).1.disk.text? ["log"] := by
  intro d endless logged
  refine ⟨⟨by decide, ?_, ?_, ?_⟩, by decide, ?_, ?_, ?_, ?_⟩
  · exact tellsApart_of_short (fun _ _ => rfl) {} rfl d (by decide)
  · exact Option.isNone_iff_eq_none.mp (by decide +kernel)
  · have hendless : (announced {} (fileOf "one" "/dev/zero")).disk.isEndless "/dev/zero" = true := by decide +kernel
    rw [dispatch_singleton, carryOut_of_ok _ _ _ _ (by decide) rfl, sink_skipping rfl]
    show ((Sink.file "/dev/zero" true).write true (announced {} (fileOf "one" "/dev/zero")) "one" "one").2 = _
    unfold Sink.write
    dsimp only
    rw [if_pos rfl, Sink.isUnchanged?, if_pos hendless]
  · exact tellsApart_of_short (fun _ _ => rfl) loggingHost rfl d (by decide)
  · exact Option.isNone_iff_eq_none.mp (by decide +kernel)
  · exact Option.isNone_iff_eq_none.mp (by decide +kernel)
  · decide +kernel

end Dispatcher

end Literate
