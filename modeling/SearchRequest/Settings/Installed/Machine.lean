import SearchRequest.Settings.Path

/-!
The machine that the installed library runs on: whose homes it knows, how much it reads, and which
directories and devices there are.
-/

namespace SearchRequest

structure Machine where
  home : String
  homes : List (String × String)
  /-- Whole numbers are written with at most this many digits. -/
  wholeLength : Nat
  /-- Lists and objects of a file are read up to this depth. -/
  depthLimit : Nat
deriving DecidableEq, Repr

namespace Machine

/-- A home that is not set is the user's own; one that is set to no text is the root. -/
def homeOf? (m : Machine) (env : Variables) (user : String) : Option String :=
  if user.isEmpty then
    match env.get? "HOME" with
    | none => some m.home
    | some home => some (if home.isEmpty then "/" else home)
  else m.homes.lookup user

def noHome : Failure := .foreign "Could not determine home directory."

def expanded (m : Machine) (env : Variables) (p : Path) : Except Failure Path :=
  match p.isRooted, p.names with
  | false, first :: rest => match first.toList with
      | '~' :: user => match m.homeOf? env (String.ofList user) with
          | none => .error noHome
          | some home =>
              if home.startsWith "~" then .error noHome
              else
                let base := Path.ofText home
                .ok ⟨base.root, base.names ++ rest⟩
      | _ => .ok p
  | _, _ => .ok p

end Machine

structure FileTree where
  directories : List (List String)
  devices : List (List String)
  pathLimit : Nat
  nameLimit : Nat
deriving DecidableEq, Repr

namespace FileTree

/-- Follows names from a directory, which is given by its own names from the root when they are
known. A name that is too long is refused where it is looked up, and so not behind a directory
that is not there. -/
def follow (t : FileTree) (here : Option (List String)) : List String → Except Failure Place
  | [] => .ok .directory
  | name :: rest =>
      if t.nameLimit < name.utf8ByteSize then .error .system
      else if name = ".." then t.follow (here.map List.dropLast) rest
      else match here.map (· ++ [name]) with
        | none => .ok .nothing
        | some there =>
            if t.directories.contains there then t.follow (some there) rest
            else if rest.isEmpty && t.devices.contains there then .ok .device
            else .ok .nothing

def find (t : FileTree) : FileSystem := fun p =>
  if p.text.toList.any Variables.isNull then .ok .nothing
  else if t.pathLimit < p.text.utf8ByteSize then .error .system
  else t.follow (if p.isRooted then some [] else none) p.names

end FileTree

end SearchRequest
