import Vwfl.Loader.Image
import Vwfl.Loader.Layout
import Vwfl.Loader.Slots
import Vwfl.Pe.Fixups
import Vwfl.Pe.Parsed
import Vwfl.Rust.Lists
import Vwfl.Transition.Run

open Rust ByteStore LittleEndian Transition
open vwfl.vm vwfl.pe vwfl.forwarder

namespace vwfl.loader

/-- A parsed file with the place where it is loaded. -/
structure Image where
  pe : PeFile
  size : UInt32
  p_base : UInt64
  v_base : UInt64

/-- Guest memory that belongs to the image, whole large pages from its base. -/
def Image.Range (self : Image) (address : Nat) : Prop := Within self.p_base.toNat (alignedSize self.size).toNat address

def LoadedModule.image (self : LoadedModule) : Image := ⟨self.pe, self.size, self.p_base, self.v_base⟩

/-- Sections end below 4 GiB, and every word that the relocation section names
    in guest memory lies in the image, unless the image stays where it was
    linked. -/
structure Image.Contained (profile : Profile) (image : Image) : Prop where
  extent : ∀ found ∈ image.pe.sections, sectionRva image.pe found + found.virtual_size.toNat < 2 ^ 32
  relocations : image.v_base ≠ image.pe.image_base → ∀ target ∈ image.pe.fixups profile,
    image.p_base.toNat + target + 8 ≤ MEM_SIZE.toNat → target + 8 ≤ (alignedSize image.size).toNat

/-- Every resolved import of the module whose slot is in guest memory has it in
    the image. -/
def SlotsContained (resolver : ForwarderResolver) (loaded : LoadedModule) : Prop :=
  ∀ imported ∈ moduleImports resolver.profile loaded, imported.target resolver ≠ none →
    loaded.p_base.toNat + imported.func.iat_rva.toNat + 8 ≤ MEM_SIZE.toNat →
      imported.func.iat_rva.toNat + 8 ≤ (alignedSize loaded.size).toNat

/-- What parsing and measuring a file guarantee about an image. -/
structure Image.Measured (profile : Profile) (image : Image) : Prop where
  size : imageSize profile image.pe = .ok image.size
  header : image.pe.header_data ≠ [] ∧ image.pe.header_data.length ≤ 4096
  sections : ∀ found ∈ image.pe.sections,
    0 < found.virtual_size.toNat ∧ found.raw_data.length ≤ found.virtual_size.toNat

variable {profile : Profile} {image : Image}

theorem sectionEnd_toNat {pe : PeFile} {found : Section} {stop : UInt64} (h : sectionEnd profile pe found = .ok stop)
    (hextent : sectionRva pe found + found.virtual_size.toNat < 2 ^ 32) :
    stop.toNat = sectionRva pe found + found.virtual_size.toNat := by
  obtain ⟨sum, hsum, hstop⟩ := bind_eq_ok_iff.mp h
  have hdifference : stop = sum - pe.image_base := (Profile.checked_eq_ok_iff.mp hstop).2
  have hshift : found.virtual_address + found.virtual_size - pe.image_base =
      found.virtual_address - pe.image_base + found.virtual_size := by grind
  unfold sectionRva at hextent ⊢
  rw [hdifference, Profile.eq_of_add64 hsum, hshift, BitField.toNat_add_of_lt (by omega)]

instance lawfulOrderMax_UInt64 : Std.LawfulOrderMax UInt64 where
  max_le_iff first second bound := by
    rw [show max first second = if first ≤ second then second else first from rfl]
    split <;> grind
  max_eq_or first second := by
    rw [show max first second = if first ≤ second then second else first from rfl]
    split <;> simp

/-- Below 4 GiB the size of an image covers every section. -/
theorem Image.Measured.sections_le (hmeasured : image.Measured profile) (hcontained : image.Contained profile)
    {found : Section} (hfound : found ∈ image.pe.sections) :
    sectionRva image.pe found + found.virtual_size.toNat ≤ image.size.toNat := by
  obtain ⟨ends, hends, hsize⟩ := bind_eq_ok_iff.mp hmeasured.size
  obtain ⟨stop, hstop, hend⟩ := (mem_of_mapM_eq_ok hends).1 found hfound
  obtain ⟨largest, hlargest⟩ := Option.isSome_iff_exists.mp (List.isSome_max?_of_mem hstop)
  obtain ⟨hmem, hmax⟩ := List.max?_eq_some_iff.mp hlargest
  obtain ⟨widest, hwidest, hwidestEnd⟩ := (mem_of_mapM_eq_ok hends).2 largest hmem
  have hlimit := sectionEnd_toNat hwidestEnd (hcontained.extent widest hwidest)
  have hbound := hcontained.extent widest hwidest
  have hsizeNat : image.size.toNat = largest.toNat := by
    rw [hlargest] at hsize
    rw [← Except.ok.inj hsize, Option.getD_some, UInt64.toNat_toUInt32, Nat.mod_eq_of_lt (by omega)]
  have hle := UInt64.le_iff_toNat_le.mp (hmax stop hstop)
  rw [← sectionEnd_toNat hend (hcontained.extent found hfound), hsizeNat]
  exact hle

theorem le_alignedSize (size : UInt32) : size.toNat ≤ (alignedSize size).toNat := by
  rw [alignedSize_toNat]
  exact le_roundUp size.toNat

/-- The header fits in front of the first large page boundary. -/
theorem Image.Measured.header_le (hmeasured : image.Measured profile) (hcontained : image.Contained profile) :
    image.pe.header_data.length ≤ (alignedSize image.size).toNat := by
  have hheader := hmeasured.header.2
  have hpositive : 0 < image.size.toNat := by
    cases hsections : image.pe.sections with
    | nil =>
      have hsize := hmeasured.size
      rw [imageSize, hsections] at hsize
      rw [← Except.ok.inj hsize]
      decide
    | cons found rest =>
      have hmem : found ∈ image.pe.sections := by
        rw [hsections]
        exact List.mem_cons_self
      have hle := hmeasured.sections_le hcontained hmem
      have hvirtual := (hmeasured.sections found hmem).1
      omega
  rw [alignedSize_toNat, roundUp]
  omega

/-- Loading a contained image changes only its own memory, also when it
    faults. -/
theorem load_sections_changesOnly (hmeasured : image.Measured profile) (hcontained : image.Contained profile) :
    ChangesOnly image.Range (load_sections profile image.pe image.p_base image.v_base) := by
  have hsize := MEM_SIZE_toNat
  have hheaderEnd := hmeasured.header_le hcontained
  have hheader : ChangesOnly image.Range (loadHeader profile image.pe image.p_base) := by
    unfold loadHeader
    split
    · refine ChangesOnly.write_memory ?_
      rintro _ address ⟨hlow, hhigh⟩
      exact ⟨hlow, by omega⟩
    · exact Stateful.Moves.pure ()
  refine hheader.bind_of_ok fun before _ middle hrun => ?_
  -- The base is an address in guest memory, so no sum with it wraps.
  have hbase := (loadHeader_eq_ok hrun).1 hmeasured.header.1
  refine Stateful.Moves.bind (Stateful.Moves.forM ?_) fun _ => Stateful.Moves.bind ?_ fun _ => Stateful.Moves.lift _
  · intro found hfound
    refine Stateful.Moves.lift_bind fun phys_dest hdest => ChangesOnly.write_memory ?_
    have hextent := hcontained.extent found hfound
    have hsection := hmeasured.sections_le hcontained hfound
    have hraw := (hmeasured.sections found hfound).2
    have haligned := le_alignedSize image.size
    have hplace : phys_dest.toNat = image.p_base.toNat + sectionRva image.pe found := by
      unfold sectionRva at hextent ⊢
      rw [Profile.eq_of_add64 hdest, BitField.toNat_add_of_lt (by omega)]
    rintro _ address ⟨hlow, hhigh⟩
    exact ⟨by omega, by omega⟩
  · refine Stateful.Moves.ok (PeFile.apply_relocation_changesOnly hbase profile ?_)
    rintro hmoved target htarget hfits address ⟨hlow, hhigh⟩
    have hinside := hcontained.relocations hmoved target htarget hfits
    exact ⟨by omega, by omega⟩

/-- Binding a module with contained slots changes only its own memory, also when
    it faults. -/
theorem bindModule_changesOnly {resolver : ForwarderResolver} {loaded : LoadedModule}
    (hbase : loaded.p_base.toNat ≤ MEM_SIZE.toNat) (hcontained : SlotsContained resolver loaded) :
    ChangesOnly loaded.image.Range (bindModule resolver loaded) := by
  have hsize := MEM_SIZE_toNat
  refine Stateful.Moves.lift_bind fun imports himports => Stateful.Moves.forM fun imp himp => ?_
  refine Stateful.Moves.forM fun func hfunc => Stateful.Moves.lift_bind fun resolved hresolved => ?_
  cases resolved with
  | none => exact Stateful.Moves.pure ()
  | some addr =>
    refine Stateful.Moves.lift_bind fun iat_paddr hpaddr => ChangesOnly.write_memory ?_
    have hmem : (⟨loaded, imp.dll_name, func⟩ : Import) ∈ moduleImports resolver.profile loaded := by
      simp only [moduleImports, himports, List.mem_flatMap, List.mem_map]
      exact ⟨imp, himp, func, hfunc, rfl⟩
    have htarget : Import.target resolver ⟨loaded, imp.dll_name, func⟩ ≠ none := by
      simp [Import.target, hresolved]
    have hrva := func.iat_rva.toNat_lt
    have hwide : func.iat_rva.toUInt64.toNat = func.iat_rva.toNat := UInt32.toNat_toUInt64 _
    have hslot : iat_paddr.toNat = loaded.p_base.toNat + func.iat_rva.toNat := by
      rw [Profile.eq_of_add64 hpaddr, BitField.toNat_add_of_lt (by omega), hwide]
    have hinside := hcontained _ hmem htarget
    rw [length_ofUInt64, hslot]
    rintro hfits address ⟨hlow, hhigh⟩
    have hend := hinside hfits
    simp only at hend
    exact ⟨Nat.le_trans (Nat.le_add_right _ _) hlow, by simp only [LoadedModule.image]; omega⟩

/-- A module that was loaded into guest memory from a file of the directory. -/
structure LoadedFrom (host : Host) (dir : Directory) (loaded : LoadedModule) : Prop where
  opened : openFile host dir loaded.name = .ok (loaded.pe, loaded.size)
  p_base_le : loaded.p_base.toNat ≤ MEM_SIZE.toNat

/-- Work that the loader does for one module. -/
inductive Work where
  | load (image : Image)
  | bind (resolver : ForwarderResolver) (loaded : LoadedModule)

namespace Work

/-- Memory of the module that the work is done for. -/
def Range : Work → Nat → Prop
  | load image => image.Range
  | bind _ loaded => loaded.image.Range

/-- Memory that the work leaves, also when it faults. -/
def effect (profile : Profile) : Work → Vm → Vm
  | load image => Stateful.leftBy (load_sections profile image.pe image.p_base image.v_base)
  | bind resolver loaded => Stateful.leftBy (bindModule resolver loaded)

def Contained (profile : Profile) : Work → Prop
  | load image => image.Contained profile
  | bind resolver loaded => SlotsContained resolver loaded

/-- Files of the directory are loaded, and modules that were loaded from it are
    bound against each other. -/
def OfDirectory (host : Host) (dir : Directory) : Work → Prop
  | load image => ∃ name, openFile host dir name = .ok (image.pe, image.size)
  | bind resolver loaded =>
    resolver.profile = host.profile ∧ resolver.cases = host.cases ∧ loaded ∈ resolver.modules ∧
      ∀ m ∈ resolver.modules, LoadedFrom host dir m

end Work

/-- Steps of a run, from one state of guest memory to the next. -/
def workStep (profile : Profile) (before : Vm) (work : Work) (after : Vm) : Prop := after = work.effect profile before

/-- A step that changes no byte outside the memory of its module. -/
def isolatedStep (profile : Profile) (before : Vm) (work : Work) (after : Vm) : Prop :=
  workStep profile before work after ∧ SameOutside work.Range before after

/-- `load_directory` and `bind_all`, one after the other. -/
def loadAndBind (host : Host) (dir : Directory) (k_pbase k_vbase : UInt64) : VmM KernelLoader := do
  let kloader ← KernelLoader.load_directory host .new dir k_pbase k_vbase
  kloader.bind_all host.profile host.cases
  return kloader

variable {host : Host} {dir : Directory}

theorem openFile_measured (hobject : host.object.Sound) {name : String} {image : Image}
    (h : openFile host dir name = .ok (image.pe, image.size)) : image.Measured host.profile := by
  obtain ⟨buf, _, hparse, hsize⟩ := openFile_eq_ok h
  obtain ⟨file, hparsed⟩ := parse_eq_ok hparse
  refine ⟨hsize, ⟨?_, ?_⟩, ?_⟩
  · rw [hparsed.header_data]
    intro hempty
    obtain rfl : buf = [] := by simpa using hempty
    have haccepted := hparsed.accepted
    rw [hobject.nonempty] at haccepted
    cases haccepted
  · rw [hparsed.header_data, List.length_take]
    omega
  · intro found hfound
    obtain ⟨source, hsource, hextracted⟩ := extract_sections_eq_ok hparsed.sections found hfound
    refine ⟨hextracted.positive, ?_⟩
    rw [← hextracted.size]
    exact hobject.data_le buf file hparsed.accepted source hsource _ hextracted.data

/-- Contained work for a module of the directory is isolated. -/
theorem Work.isolated (hobject : host.object.Sound) {work : Work} (hwork : work.OfDirectory host dir)
    (hcontained : work.Contained host.profile) {before after : Vm} (hstep : workStep host.profile before work after) :
    isolatedStep host.profile before work after := by
  refine ⟨hstep, ?_⟩
  rw [workStep] at hstep
  subst hstep
  cases work with
  | load image =>
    obtain ⟨name, hopen⟩ := hwork
    exact load_sections_changesOnly (openFile_measured hobject hopen) hcontained before
  | bind resolver loaded =>
    obtain ⟨_, _, hmem, hmodules⟩ := hwork
    exact bindModule_changesOnly (hmodules loaded hmem).p_base_le hcontained before

section Trace

variable (hobject : host.object.Sound)

/-- States that are reached by work for modules of the directory. -/
abbrev WorkReaches (host : Host) (dir : Directory) : Vm → Vm → Prop :=
  Reaches (workStep host.profile) (Work.OfDirectory host dir)

theorem load_sections_traced {name : String} {pe : PeFile} {size : UInt32}
    (hopen : openFile host dir name = .ok (pe, size)) (p_base v_base : UInt64) :
    Stateful.Moves (WorkReaches host dir) (load_sections host.profile pe p_base v_base) :=
  fun _ => ⟨[.load ⟨pe, size, p_base, v_base⟩], .single rfl, List.forall_mem_singleton.mpr ⟨name, hopen⟩⟩

theorem load_file_fixed_traced (self : KernelLoader) (name : String) (p_cursor v_base : UInt64) :
    Stateful.Moves (WorkReaches host dir) (self.load_file_fixed host dir name p_cursor v_base) := by
  refine Stateful.Moves.lift_bind fun ⟨pe, size⟩ hopen => Stateful.Moves.lift_bind fun advanced _ => ?_
  exact (load_sections_traced hopen p_cursor v_base).bind fun entry => Stateful.Moves.pure _

theorem load_file_dynamic_traced (self : KernelLoader) (name : String) (p_cursor v_cursor : UInt64) :
    Stateful.Moves (WorkReaches host dir) (self.load_file_dynamic host dir name p_cursor v_cursor) := by
  refine Stateful.Moves.lift_bind fun ⟨pe, size⟩ hopen => Stateful.Moves.lift_bind fun next_p _ => ?_
  refine Stateful.Moves.lift_bind fun next_v _ => ?_
  exact (load_sections_traced hopen p_cursor v_cursor).bind fun entry => Stateful.Moves.pure _

theorem load_directory_traced (k_pbase k_vbase : UInt64) :
    Stateful.Moves (WorkReaches host dir) (KernelLoader.load_directory host .new dir k_pbase k_vbase) := by
  unfold KernelLoader.load_directory
  refine Stateful.Moves.bind (Stateful.Moves.foldlM ?_ _) fun _ => Stateful.Moves.lift_bind fun paths _ => ?_
  · rintro ⟨self, p_cursor⟩ ⟨name, fixed_v⟩ _
    exact load_file_fixed_traced self name p_cursor fixed_v
  · refine Stateful.Moves.bind (Stateful.Moves.foldlM ?_ _) fun _ => Stateful.Moves.pure _
    rintro ⟨self, p_cursor, v_cursor⟩ name _
    exact load_file_dynamic_traced self name p_cursor v_cursor

include hobject

/-- A file that was loaded lies in guest memory. -/
theorem load_sections_base {name : String} {pe : PeFile} {size : UInt32}
    (hopen : openFile host dir name = .ok (pe, size)) {p_base v_base entry : UInt64} {before after : Vm}
    (hrun : (load_sections host.profile pe p_base v_base).run before = .ok entry after) :
    p_base.toNat ≤ MEM_SIZE.toNat := by
  have hmeasured : (Image.mk pe size p_base v_base).Measured host.profile := openFile_measured hobject hopen
  obtain ⟨_, _, hheader, _⟩ := Stateful.bind_run_eq_ok_iff.mp hrun
  exact (loadHeader_eq_ok hheader).1 hmeasured.header.1

/-- The modules loaded so far come from the directory, and loading them one
    after the other led to the present state. -/
structure LoadTrace (host : Host) (dir : Directory) (start : Vm) (kloader : KernelLoader) (state : Vm) : Prop where
  trace : Run (workStep host.profile) start (kloader.modules.map fun m => .load m.image) state
  loaded : ∀ m ∈ kloader.modules, LoadedFrom host dir m

theorem LoadTrace.push {start before after : Vm} {self : KernelLoader} (htrace : LoadTrace host dir start self before)
    {name : String} {pe : PeFile} {size : UInt32} (hopen : openFile host dir name = .ok (pe, size))
    {p_base v_base entry : UInt64}
    (hrun : (load_sections host.profile pe p_base v_base).run before = .ok entry after) :
    LoadTrace host dir start (self.push ⟨name, v_base, p_base, entry, size, pe⟩) after := by
  constructor
  · rw [KernelLoader.push, List.map_append]
    exact .snoc htrace.trace (Stateful.leftBy_of_ok hrun).symm
  · exact List.forall_mem_append.mpr
      ⟨htrace.loaded, List.forall_mem_singleton.mpr ⟨hopen, load_sections_base hobject hopen hrun⟩⟩

theorem load_file_fixed_trace {self result : KernelLoader} {name : String} {p_cursor v_base next : UInt64}
    {start before after : Vm} (htrace : LoadTrace host dir start self before)
    (hrun : (self.load_file_fixed host dir name p_cursor v_base).run before = .ok (result, next) after) :
    LoadTrace host dir start result after := by
  obtain ⟨⟨pe, size⟩, _, hopen, hrun⟩ := Stateful.bind_run_eq_ok_iff.mp hrun
  obtain ⟨hfile, hstate⟩ := Stateful.lift_run_eq_ok_iff.mp hopen
  rw [hstate] at hrun
  obtain ⟨_, _, hadd, hrun⟩ := Stateful.bind_run_eq_ok_iff.mp hrun
  rw [(Stateful.lift_run_eq_ok_iff.mp hadd).2] at hrun
  obtain ⟨entry, _, hsections, hrun⟩ := Stateful.bind_run_eq_ok_iff.mp hrun
  injection hrun with hvalue hstate
  injection hvalue with hresult
  rw [← hresult, ← hstate]
  exact htrace.push hobject hfile hsections

theorem load_file_dynamic_trace {self result : KernelLoader} {name : String} {p_cursor v_cursor : UInt64}
    {next : UInt64 × UInt64} {start before after : Vm} (htrace : LoadTrace host dir start self before)
    (hrun : (self.load_file_dynamic host dir name p_cursor v_cursor).run before = .ok (result, next) after) :
    LoadTrace host dir start result after := by
  obtain ⟨⟨pe, size⟩, _, hopen, hrun⟩ := Stateful.bind_run_eq_ok_iff.mp hrun
  obtain ⟨hfile, hstate⟩ := Stateful.lift_run_eq_ok_iff.mp hopen
  rw [hstate] at hrun
  obtain ⟨_, _, hadd_p, hrun⟩ := Stateful.bind_run_eq_ok_iff.mp hrun
  rw [(Stateful.lift_run_eq_ok_iff.mp hadd_p).2] at hrun
  obtain ⟨_, _, hadd_v, hrun⟩ := Stateful.bind_run_eq_ok_iff.mp hrun
  rw [(Stateful.lift_run_eq_ok_iff.mp hadd_v).2] at hrun
  obtain ⟨entry, _, hsections, hrun⟩ := Stateful.bind_run_eq_ok_iff.mp hrun
  injection hrun with hvalue hstate
  injection hvalue with hresult
  rw [← hresult, ← hstate]
  exact htrace.push hobject hfile hsections

theorem loadFixed_trace {fixed : KernelLoader} {k_pbase k_vbase p_start : UInt64} {before middle : Vm}
    (hrun : (loadFixed host dir k_pbase k_vbase).run before = .ok (fixed, p_start) middle) :
    LoadTrace host dir before fixed middle := by
  have hstart : LoadTrace host dir before .new before := ⟨.nil, by simp [KernelLoader.new]⟩
  exact foldlM_run_invariant (fun value state => LoadTrace host dir before value.1 state)
    (fun ⟨_, _⟩ ⟨_, _⟩ _ ⟨_, _⟩ _ htrace hround => load_file_fixed_trace hobject htrace hround) hstart hrun

theorem loadDrivers_trace {self result : KernelLoader} {names : List String} {p_cursor v_cursor : UInt64}
    {last : UInt64 × UInt64} {start before after : Vm} (htrace : LoadTrace host dir start self before)
    (hrun : (loadDrivers host dir self names p_cursor v_cursor).run before = .ok (result, last) after) :
    LoadTrace host dir start result after :=
  foldlM_run_invariant (fun value state => LoadTrace host dir start value.1 state)
    (fun ⟨_, _, _⟩ _ _ ⟨_, _⟩ _ htrace hround => load_file_dynamic_trace hobject htrace hround) htrace hrun

/-- A directory that was loaded was loaded module by module. -/
theorem load_directory_trace {kloader : KernelLoader} {k_pbase k_vbase : UInt64} {before after : Vm}
    (hrun : (KernelLoader.load_directory host .new dir k_pbase k_vbase).run before = .ok kloader after) :
    LoadTrace host dir before kloader after := by
  obtain ⟨fixed, p_start, middle, last_p, last_v, hfixed, hdrivers⟩ := KernelLoader.load_directory_eq_ok hrun
  exact loadDrivers_trace hobject (loadFixed_trace hobject hfixed) hdrivers

/-- A run of the loader is a sequence of loads and binds of modules of the
    directory, whether it completes or not. -/
theorem loadAndBind_traced (k_pbase k_vbase : UInt64) :
    Stateful.Moves (WorkReaches host dir) (loadAndBind host dir k_pbase k_vbase) := by
  refine (load_directory_traced k_pbase k_vbase).bind_of_ok fun before kloader middle hload => ?_
  have hloaded := (load_directory_trace hobject hload).loaded
  refine Stateful.Moves.bind (Stateful.Moves.forM ?_) fun _ => Stateful.Moves.pure _
  intro loaded hmem state
  exact ⟨[.bind (kloader.resolver host.profile host.cases) loaded], .single rfl,
    List.forall_mem_singleton.mpr ⟨rfl, rfl, hmem, hloaded⟩⟩

/-- Work of a run that completes: every module is loaded, then every module is
    bound. -/
def completedWorks (host : Host) (kloader : KernelLoader) : List Work :=
  kloader.modules.map (fun m => .load m.image) ++
    kloader.modules.map (.bind (kloader.resolver host.profile host.cases))

omit hobject in
theorem bindModules_trace {resolver : ForwarderResolver} {modules : List LoadedModule} {before after : Vm}
    (hrun : (forM modules (bindModule resolver)).run before = .ok () after) :
    Run (workStep host.profile) before (modules.map (.bind resolver)) after := by
  induction modules generalizing before with
  | nil =>
    injection hrun with _ hstate
    rw [← hstate]
    exact .nil
  | cons loaded rest ih =>
    rw [List.forM_cons] at hrun
    obtain ⟨_, middle, hbind, hrest⟩ := Stateful.bind_run_eq_ok_iff.mp hrun
    exact (Run.single (Stateful.leftBy_of_ok hbind).symm).append (ih hrest)

theorem loadAndBind_trace {kloader : KernelLoader} {k_pbase k_vbase : UInt64} {before after : Vm}
    (hrun : (loadAndBind host dir k_pbase k_vbase).run before = .ok kloader after) :
    Run (workStep host.profile) before (completedWorks host kloader) after ∧
      ∀ work ∈ completedWorks host kloader, work.OfDirectory host dir := by
  obtain ⟨loader, middle, hload, hrun⟩ := Stateful.bind_run_eq_ok_iff.mp hrun
  obtain ⟨_, last, hbind, hrun⟩ := Stateful.bind_run_eq_ok_iff.mp hrun
  injection hrun with hloader hstate
  subst hloader hstate
  have htrace := load_directory_trace hobject hload
  refine ⟨htrace.trace.append (bindModules_trace hbind), List.forall_mem_append.mpr ⟨?_, ?_⟩⟩
  · intro work hwork
    obtain ⟨m, hm, rfl⟩ := List.mem_map.mp hwork
    exact ⟨m.name, (htrace.loaded m hm).opened⟩
  · intro work hwork
    obtain ⟨m, hm, rfl⟩ := List.mem_map.mp hwork
    exact ⟨rfl, rfl, hm, htrace.loaded⟩

end Trace

/-- Every run of the loader is a sequence of loads and binds of modules, all of
    them when it completes. Where the sections, the relocation targets and the
    resolved slots of the modules lie in their images, no step changes a byte
    outside the module it works for. -/
theorem modules_isolated (host : Host) (hobject : host.object.Sound) (dir : Directory) (k_pbase k_vbase : UInt64)
    (before : Vm) :
    ∃ works, (∀ work ∈ works, work.OfDirectory host dir) ∧
      Run (workStep host.profile) before works (Stateful.leftBy (loadAndBind host dir k_pbase k_vbase) before) ∧
      (∀ kloader after, (loadAndBind host dir k_pbase k_vbase).run before = .ok kloader after →
        works = completedWorks host kloader) ∧
      ((∀ work ∈ works, work.Contained host.profile) →
        Run (isolatedStep host.profile) before works
          (Stateful.leftBy (loadAndBind host dir k_pbase k_vbase) before)) := by
  have hisolated : ∀ works after, (∀ work ∈ works, Work.OfDirectory host dir work) →
      Run (workStep host.profile) before works after → (∀ work ∈ works, work.Contained host.profile) →
        Run (isolatedStep host.profile) before works after := by
    intro works after hworks hrun hcontained
    refine hrun.mono_of_mem fun work hwork _ _ hstep => ?_
    exact Work.isolated hobject (hworks work hwork) (hcontained work hwork) hstep
  cases hresult : (loadAndBind host dir k_pbase k_vbase).run before with
  | ok kloader after =>
    obtain ⟨hrun, hworks⟩ := loadAndBind_trace hobject hresult
    rw [Stateful.leftBy_of_ok hresult]
    refine ⟨completedWorks host kloader, hworks, hrun, ?_, hisolated _ _ hworks hrun⟩
    intro other _ hother
    injection hother with hloader
    rw [hloader]
  | error fault after =>
    obtain ⟨works, hrun, hworks⟩ := loadAndBind_traced hobject k_pbase k_vbase before
    refine ⟨works, hworks, hrun, ?_, hisolated _ _ hworks hrun⟩
    intro kloader _ hother
    cases hother

theorem crateSections_data_le {bytes : List UInt8} {image_base : UInt64} {count sect_ptr : Nat}
    {sections : List ObjectSection} (h : crateSections bytes image_base count sect_ptr = .ok sections) :
    ∀ found ∈ sections, ∀ data, found.data = some data → data.length ≤ found.size.toNat := by
  induction count generalizing sect_ptr sections with
  | zero =>
    cases h
    simp
  | succ count ih =>
    obtain ⟨name, _, h⟩ := bind_eq_ok_iff.mp h
    obtain ⟨virtual_size, _, h⟩ := bind_eq_ok_iff.mp h
    obtain ⟨virtual_address, _, h⟩ := bind_eq_ok_iff.mp h
    obtain ⟨size_of_raw_data, _, h⟩ := bind_eq_ok_iff.mp h
    obtain ⟨pointer_to_raw_data, _, h⟩ := bind_eq_ok_iff.mp h
    obtain ⟨rest, hrest, h⟩ := bind_eq_ok_iff.mp h
    cases h
    intro found hfound data hdata
    rcases List.mem_cons.mp hfound with rfl | hlater
    · simp only at hdata ⊢
      unfold slice at hdata
      split at hdata
      · injection hdata with hdata
        rw [← hdata, List.length_take, UInt32.toNat_toUInt64]
        omega
      · cases hdata
    · exact ih hrest found hlater data hdata

theorem peCrate_sound : peCrate.Sound := by
  constructor
  · decide
  · intro bytes file haccepted
    have hfile : crateFile bytes = .ok file := by
      unfold peCrate at haccepted
      cases hcrate : crateFile bytes with
      | error fault =>
        rw [hcrate] at haccepted
        cases haccepted
      | ok found =>
        rw [hcrate] at haccepted
        rw [Option.some.inj haccepted]
    iterate 8 obtain ⟨_, _, hfile⟩ := bind_eq_ok_iff.mp hfile
    obtain ⟨sections, hsections, hfile⟩ := bind_eq_ok_iff.mp hfile
    split at hfile
    · cases hfile
      exact crateSections_data_le hsections
    · cases hfile

/-- A file that relocates one word on the given page. -/
def relocFile (page_rva : UInt32) : List UInt8 :=
  peImage 0x180000000 0x1000 (0, 0) (0, 0)
    [⟨[0x2E, 0x74, 0x65, 0x78, 0x74], 0x1000, 0x1000, 0, 0⟩,
      ⟨[0x2E, 0x72, 0x65, 0x6C, 0x6F, 0x63], 0x1000, 0x2000, 12, 408⟩]
    (ofUInt32 page_rva ++ ofUInt32 12 ++ ofUInt16 0xA000 ++ ofUInt16 0)

/-- A directory in which every file relocates one word on the given page. -/
def relocDirectory (page_rva : UInt32) : Directory where
  read _ := .ok (relocFile page_rva)
  read_dir := .ok []

def peHost : Host := ⟨.release, peCrate, CaseMap.ascii⟩

def relocPe (page_rva : UInt32) : PeFile where
  entry_point := 0x180001000
  image_base := 0x180000000
  sections := [{ name := ".text", virtual_address := 0x180001000, virtual_size := 0x1000, raw_data := [] },
    { name := ".reloc", virtual_address := 0x180002000, virtual_size := 0x1000,
      raw_data := (relocFile page_rva).drop 408 }]
  header_data := relocFile page_rva
  pdb_name := "Unknown"
  pdb_guid_age := "Unknown"
  raw_bytes := relocFile page_rva

set_option maxRecDepth 10000 in
theorem openFile_relocDirectory (name : String) : ∀ page_rva ∈ [0x1000, 0x800000],
    openFile peHost (relocDirectory page_rva) name = .ok (relocPe page_rva, 0x3000) := by
  intro page_rva hpage
  simp only [List.mem_cons, List.not_mem_nil, or_false] at hpage
  rcases hpage with rfl | rfl
  · change openFile peHost (relocDirectory 0x1000) "" = _
    decide +kernel
  · change openFile peHost (relocDirectory 0x800000) "" = _
    decide +kernel

/-- A word on the first page of the image lies in every module. -/
theorem relocDirectory_contained {work : Work} (hwork : work.OfDirectory peHost (relocDirectory 0x1000)) :
    work.Contained peHost.profile := by
  have hpe : ∀ {pe : PeFile} {size : UInt32} {name : String},
      openFile peHost (relocDirectory 0x1000) name = .ok (pe, size) → relocPe 0x1000 = pe ∧ 0x3000 = size := by
    intro pe size name hopen
    rw [openFile_relocDirectory name 0x1000 (by decide)] at hopen
    injection hopen with hpair
    exact ⟨congrArg Prod.fst hpair, congrArg Prod.snd hpair⟩
  cases work with
  | load image =>
    obtain ⟨pe, size, p_base, v_base⟩ := image
    obtain ⟨name, hopen⟩ := hwork
    obtain ⟨rfl, rfl⟩ := hpe hopen
    constructor
    · have hextent : ∀ found ∈ (relocPe 0x1000).sections,
          sectionRva (relocPe 0x1000) found + found.virtual_size.toNat < 2 ^ 32 := by decide +kernel
      exact hextent
    · have hfixups : (relocPe 0x1000).fixups peHost.profile = [0x1000] := by decide +kernel
      intro _ target htarget _
      rw [hfixups, List.mem_singleton] at htarget
      rw [htarget]
      exact Nat.le_trans (by decide) (le_alignedSize 0x3000)
  | bind resolver loaded =>
    obtain ⟨hprofile, _, hmem, hmodules⟩ := hwork
    obtain ⟨hloaded, _⟩ := hpe (hmodules loaded hmem).opened
    have himports : loaded.pe.get_imports resolver.profile = .ok [] := by
      rw [hprofile, ← hloaded]
      decide +kernel
    have hnone : moduleImports resolver.profile loaded = [] := by
      rw [moduleImports, himports]
      rfl
    intro imported himported
    rw [hnone] at himported
    cases himported

theorem modules_isolated_relocDirectory : ∃ works,
    Run (isolatedStep .release) ⟨fun _ => 0⟩ works
      (Stateful.leftBy (loadAndBind peHost (relocDirectory 0x1000) 0x200000 0xFFFFF80000200000) ⟨fun _ => 0⟩) := by
  obtain ⟨works, hworks, _, _, hisolated⟩ := modules_isolated peHost peCrate_sound (relocDirectory 0x1000) 0x200000
    0xFFFFF80000200000 ⟨fun _ => 0⟩
  exact ⟨works, hisolated fun work hwork => relocDirectory_contained (hworks work hwork)⟩

set_option maxRecDepth 10000 in
theorem loadAndBind_relocDirectory : ∃ kloader after,
    (loadAndBind peHost (relocDirectory 0x800000) 0x200000 0xFFFFF80000200000).run ⟨fun _ => 0⟩ =
      .ok kloader after := by
  obtain ⟨kloader, after, hrun, _⟩ := Stateful.of_returns
    (show Stateful.returns (loadAndBind peHost (relocDirectory 0x800000) 0x200000 0xFFFFF80000200000) ⟨fun _ => 0⟩
      (fun _ => true) = true by decide +kernel)
  exact ⟨kloader, after, hrun⟩

set_option maxRecDepth 10000 in
/-- A relocation entry for the page at 8 MiB changes memory behind the kernel,
    whose image ends at 2 MiB. -/
theorem not_modules_isolated_page : ∃ kloader after,
    (loadAndBind peHost (relocDirectory 0x800000) 0x200000 0xFFFFF80000200000).run ⟨fun _ => 0⟩ = .ok kloader after ∧
      ¬ Run (isolatedStep .release) ⟨fun _ => 0⟩ (completedWorks peHost kloader) after := by
  obtain ⟨kloader, after, hrun⟩ := loadAndBind_relocDirectory
  refine ⟨kloader, after, hrun, ?_⟩
  -- The kernel is loaded first.
  obtain ⟨loader, _, hload, hrest⟩ := Stateful.bind_run_eq_ok_iff.mp hrun
  obtain ⟨_, _, _, hrest⟩ := Stateful.bind_run_eq_ok_iff.mp hrest
  injection hrest with hloader
  subst hloader
  obtain ⟨ntoskrnl, hal, kd, kdcom, drivers, hmodules, hplaced⟩ :=
    planDirectory_eq_ok (KernelLoader.load_directory_plan hload)
  have hopened := hplaced.opened ntoskrnl List.mem_cons_self
  rw [openFile_relocDirectory _ 0x800000 (by decide)] at hopened
  injection hopened with hpair
  injection hpair with hpe hsize
  have hfirst : ntoskrnl.image = ⟨relocPe 0x800000, 0x3000, 0x200000, 0xFFFFF80000200000⟩ := by
    rw [LoadedModule.image, hplaced.kernel.1, hplaced.kernel.2, ← hpe, ← hsize]
  intro hisolated
  rw [completedWorks, hmodules, List.map_cons, hfirst] at hisolated
  obtain ⟨next, hstep, hsame⟩ := hisolated.head
  rw [workStep] at hstep
  subst hstep
  have hbyte := hsame 0xA00002 (by
    unfold Work.Range Image.Range
    decide +kernel)
  revert hbyte
  decide +kernel

end vwfl.loader
