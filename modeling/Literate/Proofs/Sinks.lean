import Literate.Proofs.Disks
import Literate.Sink

/-!
# What sinks do

What happens on a host when a message is logged, and when a text is handed to a sink. Messages change nothing but the file
to which records are appended (`Host.OnlyLogs`). A sink that takes a text does one of four things with it (`Sink.Takes`):
it prints the text, gives it to a file, leaves the file alone because it has the text by all appearances, or has a
command read it. The main statement is `Sink.takes_of_write`.
-/

namespace Literate

open Text Log

/-! ## What is logged -/

namespace Host

/-- What every record keeps, a message keeps. -/
theorem say_induction {motive : Host → Prop} {h : Host} (start : motive h)
    (step : ∀ h, motive h → ∀ output t, motive (h.record output t)) (level : Level) (text : Text) (attrs : List Attr) :
    motive (h.say level text attrs) := by
  unfold say
  induction h.logger.say ⟨level, text, attrs⟩ generalizing h with
  | nil => exact start
  | cons line lines ih => exact ih (step h start line.1 line.2)

/-- All files are as they were, except the one to which records are appended. -/
structure KeepsFiles (h h' : Host) : Prop where
  logFile : h'.logFile = h.logFile
  find : ∀ l, h.logFile ≠ some l → h'.disk.find? l = h.disk.find? l
  disk : h.logFile = none → h'.disk = h.disk
  saved : h'.disk.saved = h.disk.saved
  grows : h.disk.Grows h'.disk

/-- Nothing happened but that messages were logged. -/
structure OnlyLogs (h h' : Host) : Prop extends KeepsFiles h h' where
  stdout : h'.stdout = h.stdout
  stderr : h'.stderr = h.stderr

variable {h h' h'' : Host}

namespace KeepsFiles

theorem refl (h : Host) : h.KeepsFiles h := ⟨rfl, fun _ _ => rfl, fun _ => rfl, rfl, .refl _⟩

theorem trans (a : h.KeepsFiles h') (b : h'.KeepsFiles h'') : h.KeepsFiles h'' where
  logFile := b.logFile.trans a.logFile
  find l hl := (b.find l (by rw [a.logFile]; exact hl)).trans (a.find l hl)
  disk hn := (b.disk (a.logFile.trans hn)).trans (a.disk hn)
  saved := b.saved.trans a.saved
  grows := a.grows.trans b.grows

end KeepsFiles

namespace OnlyLogs

theorem refl (h : Host) : h.OnlyLogs h := ⟨.refl h, rfl, rfl⟩

theorem trans (a : h.OnlyLogs h') (b : h'.OnlyLogs h'') : h.OnlyLogs h'' :=
  ⟨a.toKeepsFiles.trans b.toKeepsFiles, b.stdout.trans a.stdout, b.stderr.trans a.stderr⟩

theorem record (h : Host) (output : Nat) (t : Text) : h.OnlyLogs (h.record output t) := by
  unfold Host.record
  split
  · exact ⟨⟨rfl, fun _ _ => rfl, fun _ => rfl, rfl, .refl _⟩, rfl, rfl⟩
  · split
    · exact refl h
    · rename_i l hl
      refine ⟨⟨rfl, fun k hk => ?_, fun hn => (nomatch hl.symm.trans hn), Disk.fill_saved _ _ _, .fill _ _ _⟩, rfl, rfl⟩
      have hne : k ≠ l := fun he => hk (hl.trans (congrArg some he.symm))
      exact (Disk.find?_fill _ _ _ _).trans (if_neg fun he => hne he.1)

theorem say (h : Host) (level : Level) (text : Text) (attrs : List Attr) : h.OnlyLogs (h.say level text attrs) :=
  say_induction (refl h) (fun h' hl output t => hl.trans (record h' output t)) level text attrs

end OnlyLogs

end Host

/-! ## What a sink takes -/

namespace Sink

/-- What has happened on a host when a sink has taken a text. -/
inductive Takes (text : Text) (h h' : Host) : Sink → Prop
  /-- The standard output ends in the text, and nothing else has happened. -/
  | console : h' = { h with stdout := h.stdout ++ text } → Takes text h h' .console
  /-- The path leads to a file with the text, or to a device that takes texts. Nothing else was written. -/
  | file {path : Text} {skip : Bool} {l : Location} : h.disk.place path = .ok l → h'.disk.locate path = .ok l →
      h'.disk.saved = h.disk.saved ++ [(l, text)] →
      (h.logFile ≠ some l → h'.disk.find? l = some (.file text) ∨
        ∃ v : Device, v.takes = true ∧ h.disk.find? l = some (.device v) ∧ h'.disk.find? l = some (.device v)) →
      (∀ k, k ≠ l → h.logFile ≠ some k → h'.disk.find? k = h.disk.find? k) →
      h'.stdout = h.stdout → h'.stderr = h.stderr → Takes text h h' (.file path skip)
  /-- The path led to a file whose text has the same length and the same digest, and nothing was written. -/
  | unchanged {path t : Text} : h.disk.textUnder? path = some t → t.length = text.length → h.digest t = h.digest text →
      h.OnlyLogs h' → Takes text h h' (.file path true)
  /-- The shell was asked to run the command with the text on its input. It ended well, and the host is as it left it. -/
  | pipe {command shell : Text} {disk : Disk} {out err : Text} :
      h.programs.run h.disk ⟨shellFor h shell, ["-c", command], ("PWD", h.disk.absolute ".") :: h.environment, text⟩ =
        .ended disk out err (.exited 0) →
      h' = { h with disk, stdout := h.stdout ++ out, stderr := h.stderr ++ err } → Takes text h h' (.pipe command shell)

variable {h : Host} {name text : Text}

theorem takes_of_writeConsole (hw : (writeConsole h name text).2 = none) :
    Takes text h (writeConsole h name text).1 .console := by
  unfold writeConsole at hw ⊢
  split
  · rename_i m hm
    rw [hm] at hw
    exact nomatch hw
  · exact .console rfl

/-- What goes to the standard output changes no file. -/
theorem writeConsole_keepsFiles (h : Host) (name text : Text) : h.KeepsFiles (writeConsole h name text).1 := by
  unfold writeConsole
  split
  · exact .refl h
  · exact ⟨rfl, fun _ _ => rfl, fun _ => rfl, rfl, .refl _⟩

theorem takes_of_writeFile {path : Text} {skip : Bool} (hw : (writeFile path h name text).2 = none) :
    Takes text h (writeFile path h name text).1 (.file path skip) := by
  unfold writeFile at hw ⊢
  cases he : h.disk.write path text with
  | error t => rw [he] at hw; exact nomatch hw
  | ok disk =>
    obtain ⟨l, hp, htakes, hdisk⟩ := Disk.write_eq_ok_iff.mp he
    have hlogs := Host.OnlyLogs.say { h with disk } .debug "wrote"
      [Attr.text "name" name, Attr.text "path" path, Attr.int "bytes" text.length]
    have hfill : ∀ k, disk.find? k = if k = l ∧ Node.isFillable (h.disk.find? l) = true then some (.file text)
        else h.disk.find? k := by
      rw [hdisk]
      exact Disk.find?_fill h.disk l text
    refine .file hp (hlogs.grows.resolve (Disk.locate_of_write hp he)) ?_ ?_ ?_ hlogs.stdout hlogs.stderr
    · rw [hlogs.saved, hdisk]
    · intro hl
      rw [hlogs.find l hl, hfill]
      obtain hfillable | ⟨v, hv⟩ := Disk.find?_of_place hp
      · exact .inl (if_pos ⟨rfl, hfillable⟩)
      · refine .inr ⟨v, htakes v hv, hv, (if_neg fun h => ?_).trans hv⟩
        rw [hv] at h
        exact nomatch h.2
    · intro k hk hl
      rw [hlogs.find k hl, hfill, if_neg fun h => hk h.1]

theorem endingMessage?_eq_none {ending : Ending} (he : endingMessage? ending = none) : ending = .exited 0 := by
  unfold endingMessage? at he
  split at he
  · rfl
  · exact nomatch he
  · exact nomatch he

/-- A command is told to have succeeded if it ended well and all that it printed was taken. -/
theorem passOn_of_none {disk : Disk} {out err : Text} {ending : Ending} (he : (passOn h disk out err ending).2 = none) :
    ending = .exited 0 ∧
      (passOn h disk out err ending).1 = { h with disk, stdout := h.stdout ++ out, stderr := h.stderr ++ err } := by
  unfold passOn at he ⊢
  dsimp only at he ⊢
  split at he
  · rename_i m hm
    obtain ⟨hending, hout⟩ := Option.or_eq_none_iff.mp he
    split at hout
    · rename_i hnil
      rw [hm, hnil, List.append_nil]
      exact ⟨endingMessage?_eq_none hending, rfl⟩
    · exact nomatch hout
  · rename_i hm
    rw [hm]
    exact ⟨endingMessage?_eq_none he, rfl⟩

theorem takes_of_writePipe {command shell : Text} {live : Bool} (hw : (writePipe command shell live h name text).2 = none) :
    Takes text h (writePipe command shell live h name text).1 (.pipe command shell) := by
  unfold writePipe at hw ⊢
  dsimp only at hw ⊢
  cases hstart : startError? h live (shellFor h shell) command with
  | some m => rw [hstart] at hw; exact nomatch hw
  | none =>
    rw [hstart] at hw
    dsimp only at hw ⊢
    cases hrun : h.programs.run h.disk (invocation h (shellFor h shell) command text) with
    | refused m => rw [hrun] at hw; exact nomatch hw
    | endless => rw [hrun] at hw; exact nomatch hw
    | ended disk out err ending =>
      rw [hrun] at hw
      obtain ⟨rfl, hhost⟩ := passOn_of_none (Option.map_eq_none_iff.mp hw)
      exact .pipe hrun hhost

/-- A file is left alone if its text has the length and the digest of the other one. -/
theorem takes_of_isUnchanged? {path : Text} {h' : Host} (hu : isUnchanged? h.digest h.disk path text = some true)
    (hlogs : h.OnlyLogs h') : Takes text h h' (.file path true) := by
  unfold isUnchanged? at hu
  split at hu
  · exact nomatch hu
  · split at hu
    · rename_i t ht
      obtain ⟨hlength, hdigest⟩ := of_decide_eq_true (Option.some.inj hu)
      exact .unchanged ht hlength hdigest hlogs
    · exact nomatch hu

/-- **What has happened when a sink has taken a text.** -/
theorem takes_of_write {s : Sink} {live : Bool} (hw : (s.write live h name text).2 = none) :
    Takes text h (s.write live h name text).1 s := by
  cases s with
  | console => exact takes_of_writeConsole hw
  | pipe command shell => exact takes_of_writePipe hw
  | file path skip =>
    cases skip with
    | false => exact takes_of_writeFile hw
    | true =>
      unfold write at hw ⊢
      dsimp only at hw ⊢
      rw [if_pos rfl] at hw ⊢
      cases hu : isUnchanged? h.digest h.disk path text with
      | none => rw [hu] at hw; exact nomatch hw
      | some unchanged =>
        rw [hu] at hw
        cases unchanged with
        | true => exact takes_of_isUnchanged? hu (.say _ _ _ _)
        | false => exact takes_of_writeFile hw

end Sink

end Literate
