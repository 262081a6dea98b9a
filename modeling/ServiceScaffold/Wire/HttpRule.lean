import ServiceScaffold.Wire.Item

/-!
# HTTP rules

The annotation that binds a method to a request: a pattern, of which there are six kinds, and
further bindings, which are rules themselves.
-/

namespace ServiceScaffold
namespace Wire

inductive Pattern
  | get (path : String)
  | put (path : String)
  | post (path : String)
  | delete (path : String)
  | patch (path : String)
  | custom (kind path : String)
  deriving DecidableEq, Repr

inductive HttpRule
  | mk (selector : String) (pattern : Option Pattern) (body responseBody : String)
      (additionalBindings : List HttpRule)

namespace HttpRule

def selector : HttpRule → String
  | .mk selector _ _ _ _ => selector

def pattern : HttpRule → Option Pattern
  | .mk _ pattern _ _ _ => pattern

def body : HttpRule → String
  | .mk _ _ body _ _ => body

def responseBody : HttpRule → String
  | .mk _ _ _ responseBody _ => responseBody

def additionalBindings : HttpRule → List HttpRule
  | .mk _ _ _ _ bindings => bindings

def empty : HttpRule :=
  .mk "" none "" "" []

def withSelector (rule : HttpRule) (selector : String) : HttpRule :=
  .mk selector rule.pattern rule.body rule.responseBody rule.additionalBindings

def withPattern (rule : HttpRule) (pattern : Pattern) : HttpRule :=
  .mk rule.selector (some pattern) rule.body rule.responseBody rule.additionalBindings

def withBody (rule : HttpRule) (body : String) : HttpRule :=
  .mk rule.selector rule.pattern body rule.responseBody rule.additionalBindings

def withResponseBody (rule : HttpRule) (responseBody : String) : HttpRule :=
  .mk rule.selector rule.pattern rule.body responseBody rule.additionalBindings

def withBinding (rule binding : HttpRule) : HttpRule :=
  .mk rule.selector rule.pattern rule.body rule.responseBody
    (rule.additionalBindings ++ [binding])

def mergeCustom (limit : Nat) (custom : String × String) (item : Item) :
    Option (String × String) :=
  match item.number with
  | 1 => item.text?.map fun kind => (kind, custom.2)
  | 2 => item.text?.map fun path => (custom.1, path)
  | _ => if item.skippable limit then some custom else none

/-- What a custom pattern adds to: an earlier custom pattern, or nothing. -/
def customSoFar (rule : HttpRule) : String × String :=
  match rule.pattern with
  | some (.custom kind path) => (kind, path)
  | _ => ("", "")

/-- The rule after one more item, with `limit` levels of nesting to go. -/
def merge : Nat → HttpRule → Item → Option HttpRule
  | limit, rule, item =>
    match item.number with
    | 1 => item.text?.map rule.withSelector
    | 2 => item.text?.map fun path => rule.withPattern (.get path)
    | 3 => item.text?.map fun path => rule.withPattern (.put path)
    | 4 => item.text?.map fun path => rule.withPattern (.post path)
    | 5 => item.text?.map fun path => rule.withPattern (.delete path)
    | 6 => item.text?.map fun path => rule.withPattern (.patch path)
    | 7 => item.text?.map rule.withBody
    | 8 =>
      match limit with
      | 0 => none
      | limit + 1 => do
        let (kind, path) ← (← item.inner?).foldlM (mergeCustom limit) rule.customSoFar
        pure (rule.withPattern (.custom kind path))
    | 11 =>
      match limit with
      | 0 => none
      | limit + 1 => do
        let binding ← (← item.inner?).foldlM (merge limit) empty
        pure (rule.withBinding binding)
    | 12 => item.text?.map rule.withResponseBody
    | _ => if item.skippable limit then some rule else none

def decode? (bytes : Bytes) : Option HttpRule := do
  (← readItems? bytes).foldlM (merge nestingLimit) empty

/-- A text that is left out when it is empty. -/
def textRecords (number : Nat) (text : String) : List Record :=
  if text.isEmpty then [] else [⟨number, .bytes (Utf8.ofString text)⟩]

def patternRecord : Pattern → Record
  | .get path => ⟨2, .bytes (Utf8.ofString path)⟩
  | .put path => ⟨3, .bytes (Utf8.ofString path)⟩
  | .post path => ⟨4, .bytes (Utf8.ofString path)⟩
  | .delete path => ⟨5, .bytes (Utf8.ofString path)⟩
  | .patch path => ⟨6, .bytes (Utf8.ofString path)⟩
  | .custom kind path => ⟨8, .bytes (Wire.encode (textRecords 1 kind ++ textRecords 2 path))⟩

mutual

/-- The records of a rule: the pattern stands where its lowest number belongs. -/
def records : HttpRule → List Record
  | .mk selector pattern body responseBody bindings =>
    textRecords 1 selector
    ++ pattern.toList.map patternRecord
    ++ textRecords 7 body
    ++ bindingRecords bindings
    ++ textRecords 12 responseBody

def bindingRecords : List HttpRule → List Record
  | [] => []
  | binding :: rest => ⟨11, .bytes (Wire.encode (records binding))⟩ :: bindingRecords rest

end

def encode (rule : HttpRule) : Bytes :=
  Wire.encode rule.records

end HttpRule
end Wire
end ServiceScaffold
