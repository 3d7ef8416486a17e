import SwitchPlatform.Platform.Basic

/-!
# Walking the objects

The objects of a platform form a tree: the chassis at the top, and below every object the children
that its header lists. The walk lists each object before its children, and each object once;
children without a header are skipped. It is a function of the headers alone, whatever they list,
and ends because every step either lists an object for the first time or leaves one out.
-/

namespace SwitchPlatform

/-- An object of the tree and its distance from the chassis. -/
structure TreeEntry where
  depth : Nat
  header : Header
  deriving DecidableEq

namespace Walk

/-- The entries of children that were not seen before, and the ids seen from then on. A child
without a header counts as seen. -/
def expand (header : Oid → Except StatusError Header) (depth : Nat) :
    List Oid → List Oid → List TreeEntry × List Oid
  | [], seen => ([], seen)
  | c :: cs, seen =>
    if seen.contains c then expand header depth cs seen
    else
      let rest := expand header depth cs (c :: seen)
      match header c with
      | .ok h => (⟨depth, h⟩ :: rest.1, rest.2)
      | .error _ => rest

/-- Lists the waiting entries, each followed by what is below it. The number bounds the entries
still to be listed. -/
def walkFrom (header : Oid → Except StatusError Header) :
    Nat → List TreeEntry → List Oid → List TreeEntry
  | 0, _, _ => []
  | _ + 1, [], _ => []
  | bound + 1, e :: waiting, seen =>
    let below := expand header (e.depth + 1) e.header.children seen
    e :: walkFrom header bound (below.1 ++ waiting) below.2

/-- The number of ids, which bounds the objects of any platform. -/
def idCount : Nat := 117440505

end Walk

/-- The objects of a tree of headers, from the chassis downwards. -/
def walk (header : Oid → Except StatusError Header) : Except StatusError (List TreeEntry) :=
  match header .chassis with
  | .error e => .error e
  | .ok top => .ok (Walk.walkFrom header (Walk.idCount + 1) [⟨0, top⟩] [.chassis])

/-- The ids of all objects but the chassis, in the order of the walk. -/
def walkIds (header : Oid → Except StatusError Header) : Except StatusError (List Oid) :=
  (walk header).map fun entries => entries.tail.map (·.header.id)

/-- The objects of a platform, from the chassis downwards. -/
def Platform.walk {σ : Type} (p : Platform σ) : Query σ (List TreeEntry) :=
  .inspect fun s => SwitchPlatform.walk fun id => p.header id s

/-- The ids of the objects of a platform, in the order of the walk. -/
def Platform.ids {σ : Type} (p : Platform σ) : Query σ (List Oid) :=
  .inspect fun s => walkIds fun id => p.header id s

end SwitchPlatform
