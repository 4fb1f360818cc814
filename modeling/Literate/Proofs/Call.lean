import Literate.Render

/-!
# Calls on a web

A web is changed by calls, one after another. Reading calls read a document or queue a request; besides them a web is
expanded and rendered. `Web.read` and `Web.run` are what sequences of calls make of a web, whatever becomes of each of
them: a call that stops early leaves the web as it is then, and the next call goes on with it.
-/

namespace Literate

/-- The settings that are used unless others are given. -/
def Settings.standard : Settings := { grammar := ⟨Settings.defaultMarker, Settings.defaultTags⟩ }

/-- A call that reads: what the library has and whether the call is live may differ from call to call. -/
inductive Reading where
  | parse (lib : Library) (live : Bool) (name : Text) (source : Source)
  | parseFile (lib : Library) (live : Bool) (name : Text)
  | request (r : Request)

/-- A call on a web. -/
inductive Call where
  | read (r : Reading)
  | expandAll (patience : Option Nat)
  | render (ref : Ref)

/-- What a reading call makes of a web. -/
def Reading.perform (settings : Settings) (w : Web) : Reading → Web
  | parse lib live name source => (w.parse settings lib live name source).1.web
  | parseFile lib live name => (w.parseFile settings lib live name).1.web
  | request r => w.request r

/-- What a call makes of a web. Rendering changes nothing. -/
def Call.perform (settings : Settings) (w : Web) : Call → Web
  | read r => r.perform settings w
  | expandAll patience => (w.expandAll settings patience).1.web
  | render _ => w

namespace Web

variable (settings : Settings)

/-- A web after reading calls. -/
def read (readings : List Reading) (w : Web) : Web := readings.foldl (Reading.perform settings) w

/-- A web after calls of any kind. -/
def run (calls : List Call) (w : Web) : Web := calls.foldl (Call.perform settings) w

theorem run_append (calls more : List Call) (w : Web) :
    run settings (calls ++ more) w = run settings more (run settings calls w) :=
  List.foldl_append

/-- What every call keeps, every sequence of calls keeps. -/
theorem run_induction {P : Web → Prop} (step : ∀ w (c : Call), P w → P (c.perform settings w))
    (calls : List Call) {w : Web} (h : P w) : P (run settings calls w) := by
  induction calls generalizing w with
  | nil => exact h
  | cons c calls ih => exact ih (step w c h)

end Web

end Literate
