import ScriptedDialog.Files.Path
import ScriptedDialog.Files.ReadFault

/-! Directory trees as values. A listing is what a directory holds: files with
their bytes and directories with listings of their own, in any order. Paths are
looked up from the top listing; all that lies outside it is an empty directory. -/

namespace ScriptedDialog.Files

inductive Listing where
  | nil
  | file (name : String) (content : ByteArray) (rest : Listing)
  | directory (name : String) (contents : Listing) (rest : Listing)

inductive Entry where
  | file (content : ByteArray)
  | directory (contents : Listing)

namespace Listing

def find? (name : String) : Listing → Option Entry
  | nil => none
  | file n content rest => if n = name then some (.file content) else rest.find? name
  | directory n contents rest => if n = name then some (.directory contents) else rest.find? name

/-! ### Building -/

def erase (name : String) : Listing → Listing
  | nil => nil
  | file n content rest => if n = name then rest.erase name else file n content (rest.erase name)
  | directory n contents rest =>
    if n = name then rest.erase name else directory n contents (rest.erase name)

/-- The listing of a directory, empty where there is no such directory. -/
def inside (listing : Listing) (name : String) : Listing :=
  match listing.find? name with
  | some (.directory contents) => contents
  | _ => nil

/-- Makes the directories along a path. -/
def makeDirectory : List String → Listing → Listing
  | [], listing => listing
  | name :: path, listing =>
    directory name (makeDirectory path (listing.inside name)) (listing.erase name)

/-- Writes a file, with the directories that lead to it. -/
def write (content : ByteArray) : List String → Listing → Listing
  | [], listing => listing
  | [name], listing => file name content (listing.erase name)
  | name :: path, listing =>
    directory name (write content path (listing.inside name)) (listing.erase name)

/-! ### Looking up -/

/-- The longest name of a file, in bytes. -/
def maxName : Nat := 255

/-- A path has fewer bytes than this. -/
def maxPath : Nat := 4096

/-- Follows components from a place in the tree, which is given by the listings
above it up to the top. -/
def follow : List Listing → Entry → List String → Except ReadFault Entry
  | _, entry, [] => .ok entry
  | _, .file _, _ :: _ => .error .notDirectory
  | above, .directory contents, name :: path =>
    if name = "" ∨ name = "." then follow above (.directory contents) path
    else if name = ".." then
      match above with
      | [] => follow [] (.directory nil) path
      | outer :: above => follow above (.directory outer) path
    else if name.utf8ByteSize > maxName then .error .nameTooLong
    else match contents.find? name with
      | none => .error .notFound
      | some entry => follow (contents :: above) entry path

def lookup (top : Listing) (path : String) : Except ReadFault Entry :=
  if '\x00' ∈ path.toList then .error .nulInPath
  else if path.isEmpty then .error .notFound
  else if path.utf8ByteSize ≥ maxPath then .error .nameTooLong
  else if path.startsWith "/" then follow [] (.directory nil) (Path.components path)
  else follow [] (.directory top) (Path.components path)

def read (top : Listing) (path : String) : Except ReadFault String :=
  match top.lookup path with
  | .error fault => .error fault
  | .ok (.directory _) => .error .isDirectory
  | .ok (.file content) =>
    match String.fromUTF8? content with
    | some text => .ok text
    | none => .error .invalidText

end Listing

end ScriptedDialog.Files
