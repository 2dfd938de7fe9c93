import Keyring.Text.Split

/-!
# Paths

A `Path` is a text in which slashes separate names. Two paths are the same place when their
components agree (`Path.same`): repeated and trailing slashes and inner dots do not count, a leading
dot and double dots do.
-/

namespace Keyring.Files

/-- A path as written. -/
structure Path where
  text : String
  deriving DecidableEq, Repr, Inhabited

/-- One step of a path. -/
inductive Component where
  /-- The root, at the start of an absolute path. -/
  | root
  /-- A dot at the start of a relative path. -/
  | here
  /-- A double dot. -/
  | up
  | name (chars : List Char)
  deriving DecidableEq, Repr

/-- The pieces of a text between slashes; at least one. -/
def splitSlash (text : List Char) : List (List Char) := Text.split '/' text

/-- A piece that names nothing: empty or a dot. -/
def isIdle (piece : List Char) : Bool := piece == [] || piece == ['.']

/-- Pieces without the idle ones at the end. -/
def dropIdleEnd (pieces : List (List Char)) : List (List Char) :=
  (pieces.reverse.dropWhile isIdle).reverse

/-- The step that a piece other than an idle one stands for. -/
def Component.ofPiece (piece : List Char) : Component :=
  if piece = ['.', '.'] then .up else .name piece

namespace Path

/-- Whether the path starts at the root. -/
def isAbsolute (p : Path) : Bool := p.text.toList.head? == some '/'

/-- What every form of the path keeps as written at its start: the root or a leading dot. -/
def anchor (p : Path) : Option Component :=
  match splitSlash p.text.toList with
  | [] :: _ :: _ => some .root
  | ['.'] :: _ => some .here
  | _ => none

/-- The pieces behind the anchor. -/
def body (p : Path) : List (List Char) :=
  match p.anchor with
  | some _ => (splitSlash p.text.toList).tail
  | none => splitSlash p.text.toList

/-- The components, by which paths are compared. -/
def components (p : Path) : List Component :=
  p.anchor.toList ++ (p.body.filter (!isIdle ·)).map Component.ofPiece

/-- Whether two paths have the same components. -/
def same (p q : Path) : Bool := p.components == q.components

/-- The path of an anchor and the pieces behind it. -/
def ofParts (anchor : Option Component) (pieces : List (List Char)) : Path :=
  let body := List.intercalate ['/'] pieces
  ⟨String.ofList <|
    match anchor with
    | some .root => '/' :: body
    | some _ => if pieces.isEmpty then ['.'] else '.' :: '/' :: body
    | none => body⟩

/-- The path without its last component; nothing for the root and the empty path. -/
def parent? (p : Path) : Option Path :=
  match dropIdleEnd p.body, p.anchor with
  | [], some .here => some ⟨""⟩
  | [], _ => none
  | pieces, anchor => some (ofParts anchor (dropIdleEnd pieces.dropLast))

/-- The name at the end of the path, if its last component is one. -/
def fileName? (p : Path) : Option String :=
  match (dropIdleEnd p.body).getLast? with
  | none => none
  | some piece => if piece = ['.', '.'] then none else some (String.ofList piece)

/-- A path below another; an absolute one replaces it. -/
def join (p q : Path) : Path :=
  if q.isAbsolute || p.text.isEmpty then q
  else if p.text.toList.getLast? == some '/' then ⟨p.text ++ q.text⟩
  else ⟨p.text ++ "/" ++ q.text⟩

/-- The path with another name at its end. -/
def withFileName (p : Path) (name : String) : Path :=
  match p.fileName?, p.parent? with
  | some _, some parent => parent.join ⟨name⟩
  | _, _ => p.join ⟨name⟩

end Path

end Keyring.Files
