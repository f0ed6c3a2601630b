import DesktopAgent.Display.Host
import DesktopAgent.Text.Parts
import DesktopAgent.Text.Utf8

/-!
Where paths lead on the machine of a rehearsal.

The machine has the directories and files that every such machine has, the standard programs, and
what is written to it. A path is followed name by name; it may end early at a name that is too long,
that is not there, or that is no directory.
-/

namespace DesktopAgent.Rehearsal

open DesktopAgent.Display
open DesktopAgent.Text

/-- The disk of a machine: its files, and its directories beside those that every machine has. -/
structure Disk where
  files : Files
  directories : List String
deriving DecidableEq, Repr

def usualDirectories : List String :=
  ["/", "/bin", "/boot", "/dev", "/etc", "/home", "/lib", "/media", "/mnt", "/opt", "/proc",
    "/root", "/run", "/sbin", "/srv", "/sys", "/tmp", "/usr", "/usr/bin", "/usr/lib",
    "/usr/local", "/usr/local/bin", "/usr/sbin", "/usr/share", "/var", "/var/tmp"]

def usualFiles : List String :=
  ["/dev/full", "/dev/null", "/dev/random", "/dev/stderr", "/dev/stdin", "/dev/stdout", "/dev/tty",
    "/dev/urandom", "/dev/zero", "/etc/fstab", "/etc/group", "/etc/hostname", "/etc/hosts",
    "/etc/passwd", "/etc/resolv.conf"]

def standardNames : List String :=
  ["true", "false", "echo", "printf", "cat", "printenv", "sh", "sleep"]

def programDirectories : List String := ["/bin/", "/usr/bin/"]

/-- Where a path leads: to a directory, a program or data, to nothing in a directory, or nowhere. -/
inductive Place where
  | directory
  | program (name : String)
  | data (bytes : List UInt8)
  | absent
  | missing
  | throughFile
  | nameTooLong
deriving DecidableEq, Repr

/-- The longest name, in bytes. -/
def nameLimit : Nat := 255

/-- The length in bytes that no path reaches. -/
def pathLimit : Nat := 4096

namespace Disk

/-- What is at a path without dots, if anything is. -/
def place? (disk : Disk) (path : String) : Option Place :=
  match disk.files.read? path with
  | some bytes => some (.data bytes)
  | none =>
      if usualDirectories.contains path || disk.directories.contains path then some .directory
      else if usualFiles.contains path then some (.data [])
      else
        (standardNames.find? fun name => programDirectories.any fun directory =>
          directory ++ name = path).map .program

/-- The path of a name in a directory; the directory in which everything is relative has no path. -/
def child (directory : String) (name : List Char) : String :=
  if directory.isEmpty || directory = "/" then directory ++ String.ofList name
  else directory ++ "/" ++ String.ofList name

def parent (directory : String) : String :=
  let letters := directory.toList.reverse.dropWhile (· ≠ '/')
  match letters with
  | [] => ""
  | ['/'] => "/"
  | _ :: above => String.ofList above.reverse

/-- Follows names from a directory, to a path without dots and what is there. -/
def follow (disk : Disk) (directory : String) : List (List Char) → String × Place
  | [] => (directory, .directory)
  | name :: rest =>
      if name.isEmpty || name = ['.'] then disk.follow directory rest
      else if name = ['.', '.'] then disk.follow (parent directory) rest
      else
        let path := child directory name
        if nameLimit < (Utf8.encode (String.ofList name)).length then (path, .nameTooLong)
        else
          match disk.place? path with
          | some .directory => disk.follow path rest
          | some place => (path, if rest.isEmpty then place else .throughFile)
          | none => (path, if rest.all List.isEmpty then .absent else .missing)

/-- The path without dots that a path stands for, and what is there. -/
def locate (disk : Disk) (path : String) : String × Place :=
  let names := parts (· = '/') path.toList
  if path.isEmpty then (path, .missing)
  else if pathLimit ≤ path.utf8ByteSize then (path, .nameTooLong)
  else disk.follow (if names.head? = some [] then "/" else "") names

def place (disk : Disk) (path : String) : Place := (disk.locate path).2

/-- Where the name of a command leads. A name without a slash is looked for where programs are. -/
def commandPlace (disk : Disk) (name : String) : Place :=
  if name.toList.contains '/' then disk.place name
  else if nameLimit < name.utf8ByteSize then .nameTooLong
  else if standardNames.contains name then .program name
  else if name = "." || name = ".." then .directory
  else .missing

end Disk

end DesktopAgent.Rehearsal
