import TypedRequests.Disk
import TypedRequests.Readers
import TypedRequests.Request.Report

/-!
# Machines

A command runs on a machine: it reads and writes files, has readers for their texts, and says what
it does.

* `Machine` : what a command needs.
* `Transcript` : what commands did and said, with `Transcript.machine` as their machine.
-/

set_option autoImplicit false

namespace TypedRequests

open Request

/-- What a command needs of the machine on which it runs. -/
structure Machine (m : Type → Type) where
  files : FileSystem m
  readers : Readers
  /-- The time, in milliseconds. -/
  now : m Nat
  /-- A line about what was done. -/
  say : String → m Unit
  /-- A line about what failed. -/
  complain : String → m Unit
  /-- A notice of a run. -/
  note : Notice → m Unit

/-- What commands did and said. -/
structure Transcript where
  disk : Disk
  said : List String
  complaints : List String
  notices : List Notice
deriving DecidableEq, Repr

namespace Transcript

/-- Nothing was said. -/
def ofDisk (d : Disk) : Transcript :=
  ⟨d, [], [], []⟩

/-- An operation on the disk. -/
def onDisk {α : Type} (op : StateM Disk α) : StateM Transcript α := fun t =>
  let (a, d) := op.run t.disk
  (a, { t with disk := d })

/-- The disk as the file system of commands. -/
def files : FileSystem (StateM Transcript) where
  kind? p := onDisk (Disk.system.kind? p)
  read p := onDisk (Disk.system.read p)
  create p text := onDisk (Disk.system.create p text)
  makeDir p := onDisk (Disk.system.makeDir p)
  clearDir p := onDisk (Disk.system.clearDir p)
  isCurrent p := onDisk (Disk.system.isCurrent p)

/-- A machine that writes down what commands say. Its time stands still. -/
def machine (readers : Readers) : Machine (StateM Transcript) where
  files := files
  readers := readers
  now := return 0
  say line := modify fun t => { t with said := t.said ++ [line] }
  complain line := modify fun t => { t with complaints := t.complaints ++ [line] }
  note n := modify fun t => { t with notices := t.notices ++ [n] }

@[simp] theorem readers_machine (readers : Readers) : (machine readers).readers = readers := rfl

end Transcript

end TypedRequests
