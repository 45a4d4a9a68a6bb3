import Stencil.Jinja.Format
import Stencil.Jinja.Test

/-! The filters that every template can use. -/
namespace Stencil
namespace Jinja
namespace Filter

open Value

/-! ## Texts -/

def titleCase (capital : Bool) : List Char → List Char
  | [] => []
  | c :: cs =>
    let isPunctuation := c.toNat < 128 && 32 < c.toNat && c.toNat ≠ 127 && !c.isAlphanum
    if isPunctuation ∨ Text.isBlank c then c :: titleCase true cs
    else if capital then Text.Case.upperChar c ++ titleCase false cs
    else Text.Case.lowerChar c ++ titleCase false cs

def capitalize : List Char → List Char
  | [] => []
  | c :: cs => Text.Case.upperChar c ++ Text.Case.lower cs

/-- Every line but the first moved to the right; `first` and `blank` say whether the first one and
empty ones are moved too. -/
def indented (pad : List Char) (first blank : Bool) (cs : List Char) : List Char :=
  let body := match cs.reverse with
    | '\n' :: rest => rest.reverse
    | _ => cs
  let lines := (Text.splitOnChar '\n' [] body).map Text.dropReturn
  let shown := lines.zipIdx.map fun (line, i) =>
    if i = 0 then (if first then pad ++ line else line)
    else if line.isEmpty ∧ !blank then line
    else pad ++ line
  Text.joinWith ['\n'] shown

/-- The words of a text, with at most so many cuts; what follows the last cut stays together. -/
def wordsUpTo : Nat → List Char → List (List Char)
  | limit, cs =>
    match limit, Text.dropBlank cs with
    | _, [] => []
    | 0, cs => [cs]
    | limit + 1, cs =>
      cs.takeWhile (!Text.isBlank ·) :: wordsUpTo limit (cs.dropWhile (!Text.isBlank ·))

/-- The texts of the items with a separator between them. If one of them is safe in a document of
markup, so is all, and the others are escaped. -/
def joined (r : Rules) (separator : Value) (items : List Value) : Value :=
  if r.escaping && (separator.isSafe || items.any isSafe) then
    string (String.ofList (Text.joinWith separator.markup (items.map markup))) true
  else
    textValue (Text.joinWith separator.display.toList (items.map fun v => v.display.toList))

/-- Every occurrence replaced. If a part is safe in a document of markup, so is all, and the other
parts are escaped. -/
def replaced (r : Rules) (v old new : Value) : Result Value := do
  let cs ← r.text v
  let oldText ← r.text old
  let newText ← r.text new
  if r.escaping && (v.isSafe || old.isSafe || new.isSafe) then
    return string (String.ofList (Text.replaceAll old.markup new.markup v.markup)) true
  else return v.madeFrom (Text.replaceAll oldText newText cs)

/-! ## Order -/

def foldCase (s : String) : String := String.ofList (s.toList.map Decimal.lower)

/-- Texts are ordered without regard to the case of plain letters. -/
def orderBy (caseSensitive : Bool) (v w : Value) : Ordering :=
  match v, w with
  | string s _, string t _ => if caseSensitive then compare s t else compare (foldCase s) (foldCase t)
  | v, w => order v w

def sortWith (o : Value → Value → Ordering) (reverse : Bool) (items : List Value) : List Value :=
  let sorted := items.mergeSort fun v w => o v w != .gt
  if reverse then sorted.reverse else sorted

/-- The step that a part of a path takes: a number is a place. -/
def stepOf (part : List Char) : Value :=
  let digits := match part with
    | '+' :: ds => ds
    | ds => ds
  if !digits.isEmpty && digits.all Text.asciiDigit && Decimal.natOf digits < twoTo 64 then
    int (Decimal.natOf digits)
  else textValue part

/-- An attribute; what is undefined has none. -/
def attributeOf (v key : Value) : Result Value :=
  if v.isUndefined then undefinedFault else .ok ((item? v key).getD (undefined false))

/-- An attribute of attributes, with points between their names. -/
def follow (path v : Value) : Result Value :=
  match path with
  | string s _ =>
    (Text.splitOnChar '.' [] s.toList).foldlM (fun v part => attributeOf v (stepOf part)) v
  | key => attributeOf v key

/-- The same with another value for what is not there. -/
def followOr (other path v : Value) : Value :=
  match follow path v with
  | .ok (undefined _) | .error _ => other
  | .ok w => w

/-- The order of two values by several attributes, which commas stand between. Values without an
attribute are not told apart by it. -/
def orderByPaths (caseSensitive : Bool) (path v w : Value) : Ordering :=
  let paths := match path with
    | string s _ => (Text.splitOnChar ',' [] s.toList).map textValue
    | key => [key]
  paths.foldl (fun o p => o.then
    (match follow p v, follow p w with
      | .ok a, .ok b => orderBy caseSensitive a b
      | _, _ => .eq)) .eq

/-! ## Lists -/

def batches (n : Nat) (fill : Option Value) : Nat → List Value → List Value
  | 0, _ => []
  | _, [] => []
  | fuel + 1, items =>
    let row := items.take n
    let row := match fill with
      | some v => row ++ List.replicate (n - row.length) v
      | Option.none => row
    list row :: batches n fill fuel (items.drop n)

/-- So many columns; the first ones have the items that are left over, and the others are filled. -/
def columns (n : Nat) (fill : Option Value) (items : List Value) : List Value :=
  let size := items.length / n
  let extra := items.length % n
  (List.range n).map fun i =>
    let start := i * size + min i extra
    let count := size + if i < extra then 1 else 0
    let column := (items.drop start).take count
    list (match fill with
      | some v => if extra ≤ i then column ++ [v] else column
      | Option.none => column)

def distinctBy (key : Value → Value) (known : List Value) : List Value → List Value
  | [] => []
  | v :: rest =>
    if known.any fun k => order k (key v) == .eq then distinctBy key known rest
    else v :: distinctBy key (key v :: known) rest

/-- Neighbours with the same key in one group each, under the key of the last of them. -/
def groupsOf (o : Value → Value → Ordering) (key : Value → Value) :
    List Value → List (Value × List Value)
  | [] => []
  | v :: rest =>
    match groupsOf o key rest, rest with
    | (k, vs) :: groups, w :: _ =>
      if o (key v) (key w) == .eq then (k, v :: vs) :: groups
      else (key v, [v]) :: (k, vs) :: groups
    | groups, _ => (key v, [v]) :: groups

/-- The least or the greatest item: of equal ones the first or the last. -/
def extreme (better : Ordering → Bool) (items : List Value) : Value :=
  match items with
  | [] => undefined false
  | v :: rest => rest.foldl (fun best w => if better (order w best) then w else best) v

/-- The sum of numbers; what is undefined does not count. -/
def sumOf (items : List Value) : Result Value :=
  items.foldlM (fun acc v =>
    if v.isUndefined then .ok acc
    else if v.kind == .number then add acc v
    else fault "can only sum numbers") (int 0)

/-- A map of maps, a list of lists, or else what can be gone through without a known length. -/
def chained (parts : List Value) : Value :=
  if parts.all fun v => v.kind == .map then
    map (mapOf (parts.flatMap fun v => (entries? v).getD []))
  else
    let items := parts.flatMap fun v => (iterate v).toOption.getD []
    if parts.all fun v => v.kind == .sequence then list items
    else iterable items false (parts.any fun v => (iterate v).toOption.isNone)

def reversed (v : Value) : Result Value :=
  match v with
  | undefined _ | Value.none => .ok v
  | string s _ => .ok (v.madeFrom s.toList.reverse)
  | map entries | keywords entries => .ok (iterable (entries.map (·.1)) true false)
  | view _ _ entries => .ok (iterable (entries.map (·.1)).reverse true false)
  | v =>
    match elements? v with
    | some items => .ok (iterable items.reverse true v.isBroken)
    | Option.none => fault "cannot reverse this value"

/-! ## Numbers -/

def roundFloat (x : Float) (places : Int) : Float :=
  let scale := Float.pow 10.0 (Double.ofInt places)
  (x * scale).round / scale

/-- A float without its fraction, within the bounds of integers. -/
def wholePart (x : Float) : Value := int (Double.saturate least greatest x)

def toInt (v : Value) : Result Value :=
  match v with
  | undefined _ | Value.none => .ok (int 0)
  | .bool b => .ok (int (if b then 1 else 0))
  | int _ | wide _ => .ok v
  | float x => .ok (wholePart x)
  | string s _ =>
    let (negative, digits) := Decimal.takeSign s.toList
    let n : Int := if negative then -(Decimal.natOf digits : Int) else Decimal.natOf digits
    if !digits.isEmpty && digits.all Text.asciiDigit && least ≤ n && n ≤ greatest then .ok (int n)
    else
      match Double.read? s with
      | some x => .ok (wholePart x)
      | Option.none => fault "invalid float literal"
  | _ => fault "cannot convert to integer"

def toFloat (v : Value) : Result Value :=
  match v with
  | undefined _ | Value.none => .ok (float 0.0)
  | string s _ =>
    match Double.read? s with
    | some x => .ok (float x)
    | Option.none => fault "invalid float literal"
  | v =>
    match float? v with
    | some x => .ok (float x)
    | Option.none => fault "cannot convert to float"

/-! ## Filters by name -/

/-- Filters that exist, for the test that asks for one. -/
def names : List String :=
  ["safe", "escape", "e", "lower", "upper", "title", "capitalize", "replace", "length", "count",
    "dictsort", "items", "reverse", "trim", "join", "split", "lines", "default", "d", "round",
    "abs", "int", "float", "attr", "first", "last", "min", "max", "sort", "list", "string", "bool",
    "batch", "slice", "sum", "indent", "select", "reject", "selectattr", "rejectattr", "map",
    "groupby", "unique", "chain", "zip", "pprint", "format"]

/-- The test that an item has to pass; without a name, its truth counts. -/
def condition (r : Rules) (args : List Value) : Result (Value → Result Bool) := do
  match ← r.optional args.head? with
  | Option.none => return fun v => .ok v.truth
  | some name =>
    let name := String.ofList (← r.text name)
    if Test.names.contains name then
      return fun v => Test.apply r names name v ⟨args.drop 1, []⟩
    else fault "unknown test"

/-- Filters on a text. -/
def textFilter? (r : Rules) (name : String) (v : Value) (a : Args) : Option (Result Value) :=
  match name with
  | "safe" => some do
    a.check 0 []
    return string (String.ofList (← r.text v)) true
  | "lower" => some do
    a.check 0 []
    return v.madeFrom (Text.Case.lower (← r.text v))
  | "upper" => some do
    a.check 0 []
    return v.madeFrom (Text.Case.upper (← r.text v))
  | "title" => some do
    a.check 0 []
    return textValue (titleCase true (← r.text v))
  | "capitalize" => some do
    a.check 0 []
    return v.madeFrom (capitalize (← r.text v))
  | "replace" => some do
    a.check 2 []
    replaced r v (← a.required 0) (← a.required 1)
  | "trim" => some do
    a.check 1 []
    let cs ← r.text v
    match ← r.optional a.positional[0]? with
    | some w =>
      let chars ← r.text w
      return v.madeFrom (Text.trimOf chars.contains cs)
    | Option.none => return v.madeFrom (Text.trimOf Text.isBlank cs)
  | "split" => some do
    a.check 2 []
    let cs ← r.string v
    let limit ← (← r.optional a.positional[1]?).mapM r.int
    let limit := match limit with
      | some n => if n < 0 then cs.length + 2 else n.toNat
      | Option.none => cs.length + 2
    let pieces ← match ← r.optional a.positional[0]? with
      | some w => (r.text w).map fun separator => Text.splitOnText separator limit cs
      | Option.none => .ok (wordsUpTo limit cs)
    return list (pieces.map v.madeFrom)
  | "lines" => some do
    a.check 0 []
    return list ((Text.lines (String.ofList (← r.string v))).map text)
  | "indent" => some do
    a.check 3 ["width", "first", "blank"]
    let cs ← r.text v
    let pad ← match ← r.optional (a.at? 0 "width") with
      | Option.none => .ok (List.replicate 4 ' ')
      | some (string s _) => .ok s.toList
      | some w => (r.count w).map fun n => List.replicate n ' '
    return v.madeFrom (indented pad (← r.flag (a.at? 1 "first") false)
      (← r.flag (a.at? 2 "blank") false) cs)
  | "format" => some do
    if !a.positional.isEmpty && !a.named.isEmpty then
      fault "cannot handle positional and keyword arguments at the same time"
    else return v.madeFrom (← Format.apply v.isSafe a (← r.text v))
  | _ => Option.none

/-- Filters on one value. -/
def valueFilter? (r : Rules) (name : String) (v : Value) (a : Args) : Option (Result Value) :=
  match name with
  | "escape" | "e" => some do
    a.check 0 []
    return escapeText v
  | "length" | "count" => some do
    a.check 0 []
    match length? v with
    | some n => return nat n
    | Option.none => fault "cannot calculate length of value"
  | "default" | "d" => some do
    a.check 2 []
    let other := (← r.optional a.positional[0]?).getD (text "")
    let lax ← r.flag a.positional[1]? false
    return if v.isUndefined || (lax && !v.truth) then other else v
  | "round" => some do
    a.check 1 []
    let places := (← (← r.optional a.positional[0]?).mapM r.int).getD 0
    if places < -(twoTo 31 : Int) ∨ (twoTo 31 : Int) ≤ places then fault "precision out of range"
    else
      match v with
      | int _ | wide _ => return v
      | float x => return float (roundFloat x places)
      | _ => fault "cannot round value"
  | "abs" => some do
    a.check 0 []
    match v with
    | int n => checked n.natAbs
    | wide _ => return v
    | float x => return float x.abs
    | _ => fault "cannot get absolute value"
  | "int" => some do
    a.check 0 []
    toInt v
  | "float" => some do
    a.check 0 []
    toFloat v
  | "bool" => some do
    a.check 0 []
    return .bool v.truth
  | "string" => some do
    a.check 0 []
    match v with
    | string .. => return v
    | v => return text v.display
  | "attr" => some do
    a.check 1 []
    attributeOf v (← a.required 0)
  | "reverse" => some do
    a.check 0 []
    reversed v
  | "items" => some do
    a.check 0 []
    match entries? v with
    | some entries => return list (entries.map fun e => list [e.1, e.2])
    | Option.none => fault "cannot convert value into pairs"
  | "first" => some do
    a.check 0 []
    match v with
    | string s _ => return (s.toList.head?.map fun c => v.madeFrom [c]).getD (undefined false)
    | v =>
      match elements? v, entries? v with
      | Option.none, Option.none => fault "cannot get first item from value"
      | some (w :: _), _ => return w
      | _, _ => return (← iterate v).head?.getD (undefined false)
  | "last" => some do
    a.check 0 []
    match v with
    | string s _ => return (s.toList.getLast?.map fun c => v.madeFrom [c]).getD (undefined false)
    | v =>
      if (elements? v).isSome then return (← iterate v).getLast?.getD (undefined false)
      else fault "cannot get last item from value"
  | "pprint" => some do
    a.check 0 []
    return text (outline 0 v)
  | "join" => some do
    a.check 1 []
    let separator := (← r.optional a.positional[0]?).getD (text "")
    let _ ← r.text separator
    return joined r separator (← iterate v)
  | "dictsort" => some do
    a.check 0 ["by", "case_sensitive", "reverse"]
    let by_ := match ← r.optional (a.named? "by") with
      | some (string s _) => some s
      | some _ => Option.none
      | Option.none => some "key"
    let place ←
      if by_ = some "key" then .ok 0 else if by_ = some "value" then .ok 1
      else fault "invalid value for by"
    let caseSensitive ← r.flag (a.named? "case_sensitive") false
    let reverse ← r.flag (a.named? "reverse") false
    match entries? v with
    | some entries =>
      let key := fun (p : Value) => (item? p (int place)).getD Value.none
      return list (sortWith (fun p q => orderBy caseSensitive (key p) (key q)) reverse
        (entries.map fun e => list [e.1, e.2]))
    | Option.none => fault "cannot convert value into pair list"
  | _ => Option.none

mutual

/-- Filters on the items of a value. -/
def listFilter (r : Rules) : Nat → String → Value → Args → Result Value
  | 0, _, _, _ => fault "recursion limit exceeded"
  | fuel + 1, name, v, a =>
    match name with
    | "list" => do
      a.check 0 []
      return list (← r.items v)
    | "min" => do
      a.check 0 []
      return extreme (· == .lt) (← r.items v)
    | "max" => do
      a.check 0 []
      return extreme (· != .lt) (← r.items v)
    | "sum" => do
      a.check 0 []
      sumOf (← r.items v)
    | "sort" => do
      a.check 0 ["attribute", "case_sensitive", "reverse"]
      let caseSensitive ← r.flag (a.named? "case_sensitive") false
      let o ← match ← r.optional (a.named? "attribute") with
        | some path => .ok (orderByPaths caseSensitive path)
        | Option.none => .ok (orderBy caseSensitive)
      return list (sortWith o (← r.flag (a.named? "reverse") false) (← r.items v))
    | "unique" => do
      a.check 0 ["attribute", "case_sensitive"]
      let caseSensitive ← r.flag (a.named? "case_sensitive") false
      let path ← r.optional (a.named? "attribute")
      let key := fun (v : Value) =>
        let w := path.elim v fun p => followOr (undefined false) p v
        match w with
        | string s _ => if caseSensitive then w else textValue (Text.Case.lower s.toList)
        | w => w
      return list (distinctBy key [] (← r.items v))
    | "batch" => do
      a.check 2 []
      let n ← r.count (← a.required 0)
      if n = 0 then fault "count cannot be 0"
      else
        let items ← r.items v
        return list (batches n (← r.optional a.positional[1]?) (items.length + 1) items)
    | "slice" => do
      a.check 2 []
      let n ← r.count (← a.required 0)
      if n = 0 then fault "count cannot be 0"
      else return list (columns n (← r.optional a.positional[1]?) (← r.items v))
    | "select" => do
      let passes ← condition r a.positional
      return list (← (← r.items v).filterM passes)
    | "reject" => do
      let passes ← condition r a.positional
      return list (← (← r.items v).filterM fun w => (passes w).map not)
    | "selectattr" => do
      let path ← r.text (← a.required 0)
      let passes ← condition r (a.positional.drop 1)
      return list (← (← r.items v).filterM fun w => follow (textValue path) w >>= passes)
    | "rejectattr" => do
      let path ← r.text (← a.required 0)
      let passes ← condition r (a.positional.drop 1)
      return list (← (← r.items v).filterM fun w =>
        (follow (textValue path) w >>= passes).map not)
    | "map" => do
      match ← r.optional (a.named? "attribute") with
      | some path =>
        a.check 0 ["attribute", "default"]
        let items ← r.items v
        match a.named? "default" with
        | some other => return list (items.map (followOr other path))
        | Option.none => return list (← items.mapM (follow path))
      | Option.none =>
        let filter := String.ofList (← r.string (← a.required 0))
        if names.contains filter then
          return list (← (← r.items v).mapM fun w =>
            applyFilter r fuel filter w ⟨a.positional.drop 1, a.named⟩)
        else fault "unknown filter"
    | "groupby" => do
      a.check 1 ["attribute", "default", "case_sensitive"]
      let caseSensitive ← r.flag (a.named? "case_sensitive") false
      let other := (← r.optional (a.named? "default")).getD (undefined false)
      match ← r.optional (a.at? 0 "attribute") with
      | Option.none => fault "missing argument"
      | some path =>
        let key := followOr other path
        let o := orderBy caseSensitive
        let items := sortWith (fun v w => o (key v) (key w)) false (← r.items v)
        return list ((groupsOf o key items).map fun g =>
          tuple ["grouper", "list"] [g.1, iterable g.2 true false])
    | "chain" => do
      a.check a.positional.length []
      return chained (v :: (← a.positional.mapM r.defined))
    | "zip" => do
      a.check a.positional.length []
      let lists ← (v :: a.positional).mapM r.items
      let count := (lists.map List.length).foldl min (lists.headD []).length
      return iterable ((List.range count).map fun i => list (lists.filterMap fun vs => vs[i]?))
        false false
    | _ => fault "unknown filter"

/-- The value that a filter makes of another. Only one filter takes what is undefined. -/
def applyFilter (r : Rules) : Nat → String → Value → Args → Result Value
  | 0, _, _, _ => fault "recursion limit exceeded"
  | fuel + 1, name, v, a => do
    let v ← if name = "default" ∨ name = "d" then .ok v else r.defined v
    match textFilter? r name v a with
    | some result => result
    | Option.none =>
      match valueFilter? r name v a with
      | some result => result
      | Option.none => listFilter r fuel name v a

end

/-- How deep filters name other filters. -/
def maxNesting : Nat := 40

def apply (r : Rules) (name : String) (v : Value) (a : Args) : Result Value :=
  applyFilter r maxNesting name v a

end Filter
end Jinja
end Stencil
