import DomainPolicy.Store.Database

/-!
# The disk

* A `Disk` holds what is at paths: directories, files of databases, and files of other kinds.
* `Disk.openAt` opens the database at a location. A file that is not there yet is made, with nothing in it, once there
  is a connection; `Disk.save` keeps what a database has in its file.
-/

namespace DomainPolicy

/-- What is at a path: a directory in which files can be made, one in which they cannot, a file that is no database, a
file that keeps nothing, or a database with or without its table. -/
inductive DiskEntry where
  | directory
  | closedDirectory
  | foreign
  | sink
  | database (table : Option Table)
  deriving DecidableEq, Repr

def DiskEntry.isDirectory : DiskEntry → Bool
  | directory | closedDirectory => true
  | foreign | sink | database _ => false

/-- What a path leads to. -/
inductive Found where
  | nothing
  | tooLong
  | entry (e : DiskEntry)
  deriving DecidableEq, Repr

structure Disk where
  entries : List (Path × DiskEntry) := []
  deriving DecidableEq, Repr

namespace Disk

/-- What is at a path. -/
def entry? (d : Disk) (p : Path) : Option DiskEntry :=
  if p.isAscent then some .directory else (d.entries.find? (·.1 = p)).map Prod.snd

def isDirectory (d : Disk) (p : Path) : Bool := (d.entry? p).any DiskEntry.isDirectory

/-- The most bytes of the name of a file. -/
def maxName : Nat := 255

/-- The most bytes of a path. -/
def maxPath : Nat := 4095

/-- What parts lead to from a path, each of them but the last being a directory. -/
def follow (d : Disk) (p : Path) : List Bytes → Found
  | [] => (d.entry? p).elim .nothing .entry
  | part :: parts =>
    if !d.isDirectory p then .nothing
    else if maxName < part.length then .tooLong
    else d.follow (p.enter part) parts

/-- What a path leads to. -/
def find (d : Disk) (path : Bytes) : Found :=
  if path = [] ∨ path.contains 0 then .nothing
  else if maxPath < path.length then .tooLong
  else d.follow (Path.origin path) (Split.pieces Path.slash path)

/-- Whether a path leads to something. -/
def isThere (d : Disk) (path : Bytes) : Bool :=
  match d.find path with
  | .entry _ => true
  | .nothing | .tooLong => false

/-- The bytes that a name has more while its file is being changed. -/
def journalSuffix : Nat := 8

/-- Opens a database that is in a file. -/
def openFile (d : Disk) (p : Path) (opening : Opening) : Database :=
  let location := Location.file p opening
  let refused : Database := { location := .nowhere .unreachable }
  let isWritable := opening.isWritable && p.nameLength + journalSuffix ≤ maxName
  if opening.sample.any fun path => !d.isThere path then refused
  else
    match d.entry? p with
    | some .directory | some .closedDirectory => refused
    | some .foreign => { location, isForeign := true }
    | some .sink => { location, isWritable := false }
    | some (.database table) => { location, isWritable, table }
    | none =>
      if opening.mustExist ∨ d.entry? p.directory ≠ some .directory ∨ maxName < p.nameLength then refused
      else { location, isWritable }

/-- Opens the database at a location. -/
def openAt (d : Disk) (location : Location) : Database :=
  match location with
  | .memory isWritable => { location, isWritable }
  | .nowhere _ => { location }
  | .file p opening => d.openFile p opening

/-- Puts something at a path, in the place of what is there. -/
def put (d : Disk) (p : Path) (entry : DiskEntry) : Disk := ⟨(p, entry) :: d.entries.filter (·.1 ≠ p)⟩

/-- Keeps what a database has in its file, if there was a connection to it. -/
def save (d : Disk) (db : Database) : Disk :=
  match db.location with
  | .file p _ =>
    match db.isConnected, d.entry? p with
    | true, none | true, some (.database _) => d.put p (.database db.table)
    | _, _ => d
  | .memory _ | .nowhere _ => d

/-! ### The usual disk -/

def usualDirectories : List String :=
  ["/bin", "/boot", "/dev", "/dev/shm", "/etc", "/home", "/lib", "/lib64", "/media", "/mnt", "/opt", "/root", "/run",
    "/run/lock", "/sbin", "/srv", "/tmp", "/usr", "/usr/bin", "/usr/games", "/usr/include", "/usr/lib", "/usr/lib64",
    "/usr/libexec", "/usr/local", "/usr/local/bin", "/usr/local/etc", "/usr/local/games", "/usr/local/include",
    "/usr/local/lib", "/usr/local/man", "/usr/local/sbin", "/usr/local/share", "/usr/local/src", "/usr/sbin",
    "/usr/share", "/usr/src", "/var", "/var/backups", "/var/cache", "/var/lib", "/var/local", "/var/lock", "/var/log",
    "/var/mail", "/var/opt", "/var/run", "/var/spool", "/var/tmp"]

def usualFiles : List String :=
  ["/etc/fstab", "/etc/group", "/etc/hostname", "/etc/hosts", "/etc/os-release", "/etc/passwd", "/etc/profile",
    "/etc/resolv.conf", "/etc/shadow", "/bin/sh", "/bin/bash", "/bin/ls", "/bin/cat", "/usr/bin/env", "/usr/bin/ls"]

/-- A disk with the directories and files that a system has, and no databases. -/
def usual : Disk where
  entries :=
    usualDirectories.map (fun s => (.ofString s, .directory)) ++
    ["/proc", "/sys"].map (fun s => (.ofString s, .closedDirectory)) ++
    usualFiles.map (fun s => (.ofString s, .foreign)) ++ [(.ofString "/dev/null", .sink)]

end Disk

end DomainPolicy
