import TagTemplate.OrderedMap
import TagTemplate.Text.Search

/-!
# Slots and plugs

A slot is a named place in the output: an anchor, followed by the slot's default content. Plugs for
a slot may come before or after it, so they are queued by name and put in once the whole output is
there (`reconcile`). What a plug puts in may hold further anchors.

- `recordSlot`, `setLength`, `queuePlug`: what rendering notes down;
- `reconcile`: the output with every anchor worked off that can be found.
-/

namespace TagTemplate

open TagTemplate.Text

/-- Content for a slot. -/
structure Plug where
  content : String
  /-- Continues the content of the plugs before it instead of replacing it. -/
  append : Bool
  deriving Repr, DecidableEq

/-- The slots met so far with the byte lengths of their default contents, and the plugs with the
names of their slots. -/
structure Slots where
  lengths : OrderedMap Nat
  queue : List (String × Plug)
  deriving Repr, DecidableEq

namespace Slots

/-- No slots and no plugs. -/
def empty : Slots := ⟨.empty, []⟩

instance : Inhabited Slots := ⟨empty⟩

/-- The character around the parts of an anchor. -/
def anchorMark : Char := '\x1f'

/-- What stands in the output in front of a slot's content. -/
def anchor (name : String) : String := s!"{anchorMark}slot{anchorMark}{name}{anchorMark}"

/-- Notes a slot down and answers with its anchor. A slot that is there already gets none. -/
def recordSlot (s : Slots) (name : String) : Option String × Slots :=
  if s.lengths.contains name then (none, s)
  else (some (anchor name), { s with lengths := s.lengths.insert name 0 })

/-- Sets the length of a slot's content; a slot that is not there stays so. -/
def setLength (s : Slots) (name : String) (length : Nat) : Slots :=
  if s.lengths.contains name then { s with lengths := s.lengths.insert name length } else s

/-- Queues a plug behind those already there. -/
def queuePlug (s : Slots) (name : String) (plug : Plug) : Slots :=
  { s with queue := s.queue ++ [(name, plug)] }

/-- The plugs of a slot in the order in which they came. -/
def plugs (s : Slots) (name : String) : List Plug :=
  (s.queue.filter fun entry => entry.1 == name).map Prod.snd

/-- What plugs put together: one that does not append starts anew. -/
def joined (plugs : List Plug) : String :=
  plugs.foldl (fun content plug => if plug.append then content ++ plug.content else plug.content) ""

/-- Works off a slot: its anchor is cut out, and its plugs, if it has any, replace its default
content. The answer is none if the anchor is not in the output. -/
def reconcileSlot? (s : Slots) (name : String) (output : List Char) : Option (List Char × Slots) :=
  (breakOn? (anchor name).toList output).map fun (before, after) =>
    match s.plugs name with
    | [] => (before ++ after, s)
    | plugs =>
      let content := (joined plugs).toList
      let length := (s.lengths.get? name).getD 0
      (before ++ content ++ dropWithin length after, s.setLength name (byteLength content))

/-- Works slots off one after the other. The answer starts with those not found. -/
def reconcilePass : Slots → List String → List Char → List String × List Char × Slots
  | s, [], output => ([], output, s)
  | s, name :: names, output =>
    match s.reconcileSlot? name output with
    | some (output, s) => s.reconcilePass names output
    | none =>
      let (remaining, output, s) := s.reconcilePass names output
      (name :: remaining, output, s)

/-- Goes over the slots that are left as long as some of them are found. -/
def reconcileAll (s : Slots) (pending : List String) (output : List Char) : List Char × Slots :=
  let (remaining, output, s) := s.reconcilePass pending output
  if remaining.length < pending.length then s.reconcileAll remaining output else (output, s)
termination_by pending.length

/-- The output with every slot worked off whose anchor can be found. -/
def reconcile (s : Slots) (output : String) : String × Slots :=
  let (output, s) := s.reconcileAll s.lengths.keys output.toList
  (String.ofList output, s)

end Slots

end TagTemplate
