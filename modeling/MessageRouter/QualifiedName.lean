/-!
# Qualified names

An operation has a namespace and a local name.  It is written `{namespace}local`, or as the local
name alone where the namespace is empty.
-/

namespace MessageRouter

/-- A local name in a namespace. -/
structure QualifiedName where
  space : String
  name : String
  deriving DecidableEq, Inhabited

namespace QualifiedName

/-! ## Reading and writing -/

/-- The characters before and after the first closing brace, if there is one. -/
def splitAtBrace? : List Char → Option (List Char × List Char)
  | [] => none
  | c :: rest =>
    if c = '\x7d' then some ([], rest)
    else (splitAtBrace? rest).map fun (before, after) => (c :: before, after)

/-- The name that characters stand for; without a closed brace in front all of it is local. -/
def ofChars : List Char → QualifiedName
  | [] => ⟨"", ""⟩
  | c :: rest =>
    if c = '\x7b' then
      match splitAtBrace? rest with
      | some (space, name) => ⟨String.ofList space, String.ofList name⟩
      | none => ⟨"", String.ofList (c :: rest)⟩
    else ⟨"", String.ofList (c :: rest)⟩

/-- The name that a text stands for. -/
def parse (s : String) : QualifiedName := ofChars s.toList

/-- The written form of a name. -/
def text (q : QualifiedName) : String :=
  if q.space = "" then q.name else "\x7b" ++ q.space ++ "\x7d" ++ q.name

instance : ToString QualifiedName := ⟨text⟩

/-! ## Order -/

/-- Names are ordered by namespace, then by local name. -/
def le (p q : QualifiedName) : Bool :=
  p.space < q.space || (p.space == q.space && !(q.name < p.name))

/-- Names in order. -/
def sorted (qs : List QualifiedName) : List QualifiedName := qs.mergeSort le

end QualifiedName

end MessageRouter
