import Sandscript.Capture

/-!
# Handles on captures

A capture is written and read through handles.  A clone of a handle is one more handle on the same capture, not on a
copy of it.
-/

namespace Sandscript.Capture

/-- Captures and the handles on them.  Handles are numbered in the order in which they are made. -/
structure Pool where
  captures : List Capture
  /-- The place of the capture that each handle is on. -/
  targets : List Nat
  targets_lt : ∀ i ∈ targets, i < captures.length

namespace Pool

inductive Step where
  | create (maxLines maxLineChars : Nat)
  | clone (handle : Nat)
  | write (handle : Nat) (text : String)
deriving DecidableEq, Repr

def empty : Pool := ⟨[], [], by simp⟩

/-- How many handles there are, which is the number of the next one. -/
def handles (p : Pool) : Nat := p.targets.length

def capture? (p : Pool) (handle : Nat) : Option Capture := p.targets[handle]?.bind (p.captures[·]?)

/-- One more capture, and a first handle on it. -/
def create (p : Pool) (maxLines maxLineChars : Nat) : Pool where
  captures := p.captures ++ [Capture.empty maxLines maxLineChars]
  targets := p.targets ++ [p.captures.length]
  targets_lt i hi := by
    rw [List.length_append, List.length_singleton]
    rcases List.mem_append.1 hi with hold | hnew
    · exact Nat.lt_succ_of_lt (p.targets_lt i hold)
    · exact List.mem_singleton.1 hnew ▸ Nat.lt_succ_self _

def clone (p : Pool) (handle : Nat) : Pool :=
  match h : p.targets[handle]? with
  | none => p
  | some i =>
    { p with
      targets := p.targets ++ [i]
      targets_lt := by
        have hi : i < p.captures.length := p.targets_lt i (List.mem_of_getElem? h)
        simpa [or_imp, forall_and] using ⟨p.targets_lt, hi⟩ }

def write (p : Pool) (handle : Nat) (text : String) : Pool :=
  match p.targets[handle]? with
  | none => p
  | some i =>
    { p with
      captures := p.captures.modify i (·.write text)
      targets_lt := by simpa using p.targets_lt }

/-- A handle that there is not is neither cloned nor written through. -/
def step (p : Pool) : Step → Pool
  | .create maxLines maxLineChars => p.create maxLines maxLineChars
  | .clone handle => p.clone handle
  | .write handle text => p.write handle text

def run (p : Pool) (steps : List Step) : Pool := steps.foldl step p

end Pool

end Sandscript.Capture
