import LoopPlayer.Text.Line
import LoopPlayer.Text.Utf8

/-! Programs kept in files. A file is strict UTF-8 and may use any of the three line ends. A path is
walked part by part, from the working folder or from the root. -/
namespace LoopPlayer.SourceFile

abbrev Folder := List (String × List UInt8)

inductive Error where
  | notFound (path : String)
  | notAFolder (path : String)
  | isFolder (path : String)
  | nameTooLong (path : String)
  | nullInPath
  | undecodable (error : Text.Utf8.Error)
  deriving DecidableEq, Repr

def Error.message : Error → String
  | notFound path => s!"[Errno 2] No such file or directory: {Text.quote path}"
  | notAFolder path => s!"[Errno 20] Not a directory: {Text.quote path}"
  | isFolder path => s!"[Errno 21] Is a directory: {Text.quote path}"
  | nameTooLong path => s!"[Errno 36] File name too long: {Text.quote path}"
  | nullInPath => "embedded null byte"
  | undecodable error => error.message

def root (path : List Char) : List Char :=
  match (path.takeWhile (· == '/')).length with
  | 0 => []
  | 2 => ['/', '/']
  | _ => ['/']

def parts (path : List Char) : List (List Char) :=
  (Text.pieces ['/'] path).filter fun part => part != [] && part != ['.']

def normalise (path : String) : String :=
  let normal := root path.toList ++ Text.join ['/'] (parts path.toList)
  if normal.isEmpty then "." else String.ofList normal

inductive Place where
  | inside (parts : List (List Char))
  | outside
  | file (bytes : List UInt8)
  deriving DecidableEq, Repr

def pathLimit : Nat := 4095

def partLimit : Nat := 255

def byteCount (text : List Char) : Nat := (String.ofList text).utf8ByteSize

def find? (folder : Folder) (named : List (List Char)) : Option Place :=
  match folder.find? fun (name, _) => parts name.toList == named with
  | some (_, bytes) => some (.file bytes)
  | none =>
    if folder.any fun (name, _) => named.isPrefixOf (parts name.toList) then some (.inside named)
    else none

def walk (folder : Folder) (path : String) : Place → List (List Char) → Except Error Place
  | place, [] => .ok place
  | .file _, _ => .error (.notAFolder path)
  | place, part :: rest =>
    if partLimit < byteCount part then .error (.nameTooLong path)
    else
      match place, part == ['.', '.'] with
      | .inside [], true => walk folder path .outside rest
      | .inside named, true => walk folder path (.inside named.dropLast) rest
      | .inside named, false =>
        match find? folder (named ++ [part]) with
        | some place => walk folder path place rest
        | none => .error (.notFound path)
      | _, true => walk folder path .outside rest
      | _, false => .error (.notFound path)

def decode (bytes : List UInt8) : Except Error String :=
  match Text.Utf8.decode bytes with
  | .ok text => .ok (String.ofList (Text.unifyNewlines text))
  | .error error => .error (.undecodable error)

def read (folder : Folder) (path : String) : Except Error String :=
  let path := normalise path
  let start := if path.toList.head? == some '/' then Place.outside else .inside []
  if path.toList.contains '\x00' then .error .nullInPath
  else if pathLimit < path.utf8ByteSize then .error (.nameTooLong path)
  else
    match walk folder path start (parts path.toList) with
    | .ok (.file bytes) => decode bytes
    | .ok _ => .error (.isFolder path)
    | .error error => .error error

end LoopPlayer.SourceFile
