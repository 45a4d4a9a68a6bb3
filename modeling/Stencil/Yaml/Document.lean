import Stencil.Yaml.Event
import Stencil.Yaml.Scalar

/-! The value that a document describes. -/
namespace Stencil
namespace Yaml

/-- Reading may still follow so many aliases. -/
abbrev Build := StateT Nat Option

namespace Build

/-- Collections nest at most this deep. -/
def maxDepth : Nat := 128

/-- For each event of a document, this many aliases may be followed. -/
def aliasesPerEvent : Nat := 100

def spend : Build Unit := do
  match ← get with
  | 0 => failure
  | n + 1 => set n

/-- The events from the last one on that has the anchor. -/
def anchored? (anchor : Nat) : List Event → Option (List Event)
  | [] => none
  | e :: rest =>
    match anchored? anchor rest with
    | some found => some found
    | none => if e.anchor? = some anchor then some (e :: rest) else none

/-- A tag of the document's own stays with its value. -/
def withTag (tag : Option String) (v : Json) : Build Json :=
  match tag with
  | some tag =>
    match tag.toList with
    | ['!'] => failure
    | '!' :: _ => return .object [(tag, v)]
    | _ => return v
  | none => return v

def scalar (tag : Option String) (s : String) (plain : Bool) : Build Json :=
  let untagged := fun () => if plain then (Scalar.plain? s : Option Json) else some (.string s)
  match tag with
  | some tag =>
    if tag.startsWith "!" then do withTag (some tag) (← liftM (untagged ()))
    else liftM (Scalar.converted? tag s)
  | none => liftM (untagged ())

/-- The text that stands for a key. -/
def keyText? : Json → Option String
  | .string s => some s
  | .bool b => some (if b then "true" else "false")
  | .number n => some n.render
  | _ => none

/-- Keys of different kinds differ, even if one text stands for both. -/
def sameKey : Json → Json → Bool
  | .string s, .string t => s == t
  | .bool a, .bool b => a == b
  | .number (.int m), .number (.int n) => m == n
  | .number (.float x), .number (.float y) => x == y || (x.isZero && y.isZero)
  | _, _ => false

mutual

/-- The value of the node in front, and what follows it. -/
def value (all : List Event) (depth : Nat) (events : List Event) :
    Nat → Build (Json × List Event)
  | 0 => failure
  | fuel + 1 => do
    match events with
    | .alias_ n :: rest =>
      spend
      match anchored? n all with
      | some found => return ((← value all depth found fuel).1, rest)
      | none => failure
    | .scalar marks s plain :: rest => return (← scalar marks.tag s plain, rest)
    | .sequenceStart marks :: rest =>
      match depth with
      | 0 => failure
      | depth + 1 =>
        let (items, rest) ← items all depth rest [] fuel
        return (← withTag marks.tag (.array items), rest)
    | .mappingStart marks :: rest =>
      match depth with
      | 0 => failure
      | depth + 1 =>
        let (fields, rest) ← fields all depth rest [] [] fuel
        return (← withTag marks.tag (.object fields), rest)
    | _ => failure

/-- `acc` holds the items before, the last one first. -/
def items (all : List Event) (depth : Nat) (events : List Event) (acc : List Json) :
    Nat → Build (List Json × List Event)
  | 0 => failure
  | fuel + 1 => do
    match events with
    | .sequenceEnd :: rest => return (acc.reverse, rest)
    | _ =>
      let (v, rest) ← value all depth events fuel
      items all depth rest (v :: acc) fuel

/-- A key must not come twice. Of two keys with one text the later value takes the first place. -/
def fields (all : List Event) (depth : Nat) (events : List Event) (keys : List Json)
    (acc : List (String × Json)) : Nat → Build (List (String × Json) × List Event)
  | 0 => failure
  | fuel + 1 => do
    match events with
    | .mappingEnd :: rest => return (acc, rest)
    | _ =>
      let (key, rest) ← value all depth events fuel
      match keyText? key with
      | none => failure
      | some text =>
        if keys.any (sameKey key) then failure
        let (v, rest) ← value all depth rest fuel
        fields all depth rest (key :: keys) (Fields.put acc text v) fuel

end

/-- The value of a whole document. -/
def document? (events : List Event) : Option Json :=
  let fuel := (maxDepth + 2) * (2 * events.length + 4)
  ((value events maxDepth events fuel).run (aliasesPerEvent * events.length)).map (·.1.1)

end Build

/-- The value of the one document in a text. A text without a document is null. -/
def read? (text : String) : Option Json := do
  let tokens ← tokens? text
  let events ← events? tokens
  Build.document? events

end Yaml
end Stencil
