import Disassembly.Markup.Declared

/-!
Namespaces. An attribute may bind a qualifier, or the empty qualifier for names without one, to an
address; a binding holds for its element and everything inside. A qualifier must be bound where it
is used, and no element has two attributes of one name, neither as written nor after the addresses
have been put in. Two qualifiers are reserved together with their addresses.
-/

namespace Disassembly.Markup

/-- Addresses by qualifier, the innermost binding first. The empty qualifier is the default. -/
abbrev Bindings := List (List Char × List Char)

namespace Bindings

def address (parts : List String) : List Char :=
  List.intercalate ['/'] (parts.map String.toList)

def markupAddress : List Char :=
  address ["http:", "", "www.w3.org", "XML", "1998", "namespace"]

/-- The address of the attributes that bind qualifiers. No qualifier may be bound to it. -/
def bindingAddress : List Char := address ["http:", "", "www.w3.org", "2000", "xmlns", ""]

def initial : Bindings := [("xml".toList, markupAddress)]

def bound (name : Name) : Option (List Char) :=
  match name.qualifier with
  | none => if name.base = "xmlns".toList then some [] else none
  | some qualifier => if qualifier = "xmlns".toList then some name.base else none

def bind (bindings : Bindings) (qualifier target : List Char) : Option Bindings :=
  if target.isEmpty && !qualifier.isEmpty then none
  else if qualifier = "xmlns".toList || target = bindingAddress then none
  else if (qualifier = "xml".toList) ≠ (target = markupAddress) then none
  else if target.contains '\x7d' then none
  else some ((qualifier, target) :: bindings)

def bindAll (bindings : Bindings) : List (Name × List Char) → Option Bindings
  | [] => some bindings
  | (name, value) :: rest =>
      match bound name with
      | some qualifier => (bind bindings qualifier value).bind fun inner => bindAll inner rest
      | none => bindAll bindings rest

/-- The attributes that have a qualifier and bind none, with addresses for qualifiers. -/
def resolveAttributes (bindings : Bindings) (names : List Name) :
    Option (List (List Char × List Char)) :=
  (names.filter fun name => (bound name).isNone).filterMap (fun name =>
    name.qualifier.map fun qualifier => (qualifier, name.base)) |>.mapM fun (qualifier, base) =>
      (bindings.lookup qualifier).map fun target => (target, base)

def allDistinct {Member : Type} [BEq Member] : List Member → Bool
  | [] => true
  | first :: rest => !rest.contains first && allDistinct rest

/-- The bindings inside an element with the given attributes, the declared ones included. -/
def enter (bindings : Bindings) (element : Name) (attributes : List (Name × List Char)) :
    Option Bindings := do
  let names := attributes.map Prod.fst
  let inner ← bindAll bindings attributes
  let resolved ← resolveAttributes inner names
  if !allDistinct names || !allDistinct resolved then none
  else
    match element.qualifier with
    | none => some inner
    | some qualifier => (inner.lookup qualifier).map fun _ => inner

/-- The tag of an element in its events: the address of its namespace in braces, if it is in one,
and its simple name. -/
def tag (bindings : Bindings) (name : Name) : List Char :=
  let target := (bindings.lookup (name.qualifier.getD [])).getD []
  if target.isEmpty then name.base else '\x7b' :: (target ++ '\x7d' :: name.base)

end Bindings

end Disassembly.Markup
