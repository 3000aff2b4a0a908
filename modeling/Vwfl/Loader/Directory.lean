import Vwfl.Loader.Sections
import Mathlib.Data.List.Sort

open Rust
open vwfl.vm vwfl.pe

namespace vwfl.loader

structure LoadedModule where
  name : String
  v_base : UInt64
  p_base : UInt64
  entry : UInt64
  size : UInt32
  pe : PeFile

structure KernelLoader where
  modules : List LoadedModule

def KernelLoader.new : KernelLoader := { modules := [] }

/-- A directory entry. The name is absent when it is not valid Unicode. -/
structure DirEntry where
  file_name : Option String
  is_file : Bool

/-- The directory on the host: the outcome of reading a file of it by its
    relative path, and its listing, in which single entries may fail. -/
structure Directory where
  read : String → Except String (List UInt8)
  read_dir : Except String (List (Option DirEntry))

/-- The conversion of an I/O error by `?`. -/
def ioResult {α : Type} (x : Except String α) : Result α :=
  match x with
  | .ok a => .ok a
  | .error message => .error (.err message)

def sectionEnd (profile : Profile) (pe : PeFile) (found : Section) : Result UInt64 := do
  let stop ← profile.add64 found.virtual_address found.virtual_size
  profile.sub64 stop pe.image_base

/-- The extent of the image, cut to 32 bits. -/
def imageSize (profile : Profile) (pe : PeFile) : Result UInt32 := do
  let ends ← pe.sections.mapM (sectionEnd profile pe)
  return (ends.max?.getD 0x10000).toUInt32

def alignedSize (size : UInt32) : UInt64 := (size.toUInt64 + 0x1FFFFF) &&& ~~~0x1FFFFF

/-- The build profile and the libraries that loading depends on. -/
structure Host where
  profile : Profile
  object : ObjectCrate
  cases : CaseMap

/-- The parsed file and its image size. -/
def openFile (host : Host) (dir : Directory) (name : String) : Result (PeFile × UInt32) := do
  let buf ← ioResult (dir.read name)
  let pe ← parse host.object buf
  let size ← imageSize host.profile pe
  return (pe, size)

def KernelLoader.push (self : KernelLoader) (loaded : LoadedModule) : KernelLoader :=
  { self with modules := self.modules ++ [loaded] }

/-- Loads a file at a fixed virtual address and returns the loader with the
    advanced cursor. The cursor after the kernel is a constant. -/
def KernelLoader.load_file_fixed (host : Host) (self : KernelLoader) (dir : Directory) (name : String)
    (p_cursor v_base : UInt64) : VmM (KernelLoader × UInt64) := do
  let (pe, size) ← openFile host dir name
  let p_base := p_cursor
  let advanced ← host.profile.add64 p_cursor (alignedSize size)
  let p_cursor := if name = "ntoskrnl.exe" then 0x2000000 else advanced
  let entry ← load_sections host.profile pe p_base v_base
  return (self.push { name, v_base, p_base, entry, size, pe }, p_cursor)

def KernelLoader.load_file_dynamic (host : Host) (self : KernelLoader) (dir : Directory) (name : String)
    (p_cursor v_cursor : UInt64) : VmM (KernelLoader × UInt64 × UInt64) := do
  let (pe, size) ← openFile host dir name
  let p_base := p_cursor
  let v_base := v_cursor
  let p_cursor ← host.profile.add64 p_cursor (alignedSize size)
  let v_cursor ← host.profile.add64 v_cursor (alignedSize size)
  let entry ← load_sections host.profile pe p_base v_base
  return (self.push { name, v_base, p_base, entry, size, pe }, p_cursor, v_cursor)

def essentials (k_vbase : UInt64) : List (String × UInt64) :=
  [("ntoskrnl.exe", k_vbase), ("hal.dll", 0xFFFFF80002000000), ("kd.dll", 0xFFFFF80000600000),
    ("kdcom.dll", 0xFFFFF80000800000)]

/-- Paths of one directory are ordered by the bytes of their file name, which is
    the order of the code points. Names that are not Unicode are skipped later
    and may stand anywhere. -/
def DirEntry.key (self : DirEntry) : List Nat := (self.file_name.getD "").toList.map Char.toNat

def sortPaths (paths : List DirEntry) : List DirEntry :=
  paths.insertionSort fun first second => first.key ≤ second.key

/-- The name of a path that the driver loop loads. -/
def driverName (cases : CaseMap) (path : DirEntry) : Option String :=
  if path.is_file then
    match path.file_name with
    | some fname =>
      let lname := cases.to_lowercase fname
      if (essentials 0).any (fun essential => essential.1 == lname) || lname == "config" ||
          (!ends_with lname ".dll" && !ends_with lname ".sys" && !ends_with lname ".exe") then none
      else some fname
    | none => none
  else none

/-- The listing of the directory, in which a failed entry panics. -/
def Directory.paths (self : Directory) : Result (List DirEntry) := do
  let entries ← ioResult self.read_dir
  let paths ← entries.mapM fun entry =>
    match entry with
    | some path => .ok path
    | none => .error (.panic "called `Result::unwrap()` on an `Err` value")
  return sortPaths paths

def KernelLoader.load_directory (host : Host) (self : KernelLoader) (dir : Directory) (k_pbase k_vbase : UInt64) :
    VmM KernelLoader := do
  let (self, p_cursor) ← (essentials k_vbase).foldlM
    (fun (self, p_cursor) (name, fixed_v) => self.load_file_fixed host dir name p_cursor fixed_v) (self, k_pbase)
  let paths ← dir.paths
  let (self, _, _) ← (paths.filterMap (driverName host.cases)).foldlM
    (fun (self, p_cursor, v_cursor_drivers) fname =>
      self.load_file_dynamic host dir fname p_cursor v_cursor_drivers) (self, p_cursor, 0xFFFFF80040000000)
  return self

end vwfl.loader
