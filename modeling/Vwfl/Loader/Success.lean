import Vwfl.Forwarder.Chain
import Vwfl.Loader.Order
import Vwfl.Loader.Relocated
import Vwfl.Loader.Drivers

open Rust ByteStore LittleEndian Stateful
open vwfl.vm vwfl.pe vwfl.forwarder

namespace vwfl.loader

/-- An image that loading can place: its header and its sections end in guest
    memory, and a relocation under overflow checks meets no block that is
    shorter than its header. -/
structure Loads (profile : Profile) (pe_file : PeFile) (load_pbase load_vbase : UInt64) : Prop where
  header : load_pbase.toNat + pe_file.header_data.length ≤ MEM_SIZE.toNat
  sections : ∀ found ∈ pe_file.sections, ∃ phys_dest,
    profile.add64 load_pbase (found.virtual_address - pe_file.image_base) = .ok phys_dest ∧
      phys_dest.toNat + found.raw_data.length ≤ MEM_SIZE.toNat
  relocation : load_vbase = pe_file.image_base ∨ ∀ reloc_section,
    pe_file.sections.find? (·.name == ".reloc") = some reloc_section →
      profile = .dev → BlocksSized reloc_section.raw_data 0

section Image

variable (profile : Profile) (pe_file : PeFile) (load_pbase load_vbase : UInt64)

theorem loadSection_completes (found : Section) : Completes (loadSection profile pe_file load_pbase found)
    (∃ phys_dest, profile.add64 load_pbase (found.virtual_address - pe_file.image_base) = .ok phys_dest ∧
      phys_dest.toNat + found.raw_data.length ≤ MEM_SIZE.toNat) :=
  (Yields.lift _).bind fun phys_dest _ => write_memory_completes profile phys_dest found.raw_data

theorem loadHeader_completes (hheader : pe_file.header_data ≠ []) :
    Completes (loadHeader profile pe_file load_pbase)
      (load_pbase.toNat + pe_file.header_data.length ≤ MEM_SIZE.toNat) := by
  have hpresent : (!pe_file.header_data.isEmpty) = true := by simpa using hheader
  unfold loadHeader
  rw [if_pos hpresent]
  exact write_memory_completes profile load_pbase pe_file.header_data

/-- The block loop returns, or it panics under overflow checks. -/
theorem blockLoop_returns_or_panics (hbase : load_pbase.toNat ≤ MEM_SIZE.toNat) (delta : UInt64)
    {data : List UInt8} {fuel offset : Nat} (hpositive : 0 < fuel) (hfuel : data.length < offset + fuel) (self : Vm) :
    (∃ after, (blockLoop profile load_pbase delta data fuel offset).run self = .ok () after) ∨
      profile = .dev ∧ ∃ message after,
        (blockLoop profile load_pbase delta data fuel offset).run self = .error (.panic message) after := by
  induction fuel generalizing offset self with
  | zero => cases hpositive
  | succ fuel ih =>
    rw [blockLoop]
    by_cases hroom : offset + 8 ≤ data.length
    · obtain ⟨page_rva, block_size, hheader⟩ := exists_headerAt hroom
      obtain ⟨hpage, hsize⟩ := headerAt_iff.mp hheader
      simp only [if_pos hroom, hpage, hsize]
      rw [bind_run, lift_ok_run]
      simp only []
      rw [bind_run, lift_ok_run]
      simp only []
      by_cases hzero : block_size = 0
      · rw [if_pos hzero]
        exact .inl ⟨self, rfl⟩
      · have hadvance : block_size.toNat ≠ 0 := fun h => hzero (UInt32.toNat.inj h)
        rw [if_neg hzero, bind_run]
        cases hsub : profile.sub32 block_size 8 with
        | error fault =>
          obtain ⟨hdev, rfl⟩ := Profile.checked_eq_error hsub
          exact .inr ⟨hdev, _, self, rfl⟩
        | ok entry_bytes =>
          rw [lift_ok_run]
          simp only []
          rw [bind_run, entryLoop_run_inMemory profile hbase delta]
          simp only []
          exact ih (by omega) (by omega) _
    · rw [if_neg hroom]
      exact .inl ⟨self, rfl⟩

/-- Relocation as loading calls it: a missing section is ignored. -/
theorem relocation_completes (hbase : load_pbase.toNat ≤ MEM_SIZE.toNat) :
    Completes (Stateful.ok (pe_file.apply_relocation profile load_pbase load_vbase))
      (load_vbase = pe_file.image_base ∨ ∀ reloc_section,
        pe_file.sections.find? (·.name == ".reloc") = some reloc_section →
          profile = .dev → BlocksSized reloc_section.raw_data 0) := by
  intro before _
  have hdelta : load_vbase - pe_file.image_base = 0 ↔ load_vbase = pe_file.image_base := by
    rw [UInt64.sub_eq_iff_eq_add, UInt64.zero_add]
  unfold PeFile.apply_relocation
  by_cases hsame : load_vbase = pe_file.image_base
  · simp only [if_pos (hdelta.mpr hsame)]
    exact iff_of_true ⟨before, ok_run_of_ok rfl⟩ (.inl hsame)
  · simp only [if_neg (mt hdelta.mp hsame), hsame, false_or]
    cases hfound : pe_file.sections.find? (·.name == ".reloc") with
    | none =>
      refine iff_of_true ⟨before, ok_run_eq_ok_iff.mpr (.inr ⟨_, rfl⟩)⟩ ?_
      intro reloc_section hsome
      cases hsome
    | some reloc_section =>
      have hrun : ∀ delta, (Stateful.ok (do
          let found ← (ok_or (some reloc_section) "Relocation failed: No .reloc section" : Result Section)
          blockLoop profile load_pbase delta found.raw_data (found.raw_data.length + 1) 0)).run before =
            (Stateful.ok (blockLoop profile load_pbase delta reloc_section.raw_data
              (reloc_section.raw_data.length + 1) 0)).run before := fun _ => rfl
      have hfuel : reloc_section.raw_data.length < 0 + (reloc_section.raw_data.length + 1) := by omega
      have hcases := blockLoop_returns_or_panics profile load_pbase hbase (load_vbase - pe_file.image_base)
        (Nat.succ_pos _) hfuel before
      simp only [hrun, Option.some.injEq, forall_eq']
      constructor
      · rintro ⟨after, hok⟩ rfl
        rcases ok_run_eq_ok_iff.mp hok with ⟨⟨⟩, hreturned⟩ | ⟨message, herr⟩
        · exact blocksSized_of_blockLoop _ hreturned
        · rw [herr] at hcases
          rcases hcases with ⟨_, hother⟩ | ⟨_, _, _, hother⟩
          · cases hother
          · cases hother
      · intro hsized
        rcases hcases with ⟨after, hreturned⟩ | ⟨hdev, _⟩
        · exact ⟨after, ok_run_of_ok hreturned⟩
        · obtain ⟨_, _, hreturned⟩ := blockLoop_run_inMemory profile hbase (load_vbase - pe_file.image_base)
            (Nat.succ_pos _) hfuel (hsized hdev) before
          exact ⟨_, ok_run_of_ok hreturned⟩

/-- Loading an image succeeds exactly when it fits, and returns the moved
    entry. -/
theorem load_sections_yields (hheader : pe_file.header_data ≠ []) :
    Yields (load_sections profile pe_file load_pbase load_vbase) fun entry =>
      Loads profile pe_file load_pbase load_vbase ∧
        profile.add64 load_vbase (pe_file.entry_point - pe_file.image_base) = .ok entry := by
  have hload := (loadHeader_completes profile pe_file load_pbase hheader).bind fun hinside =>
    (Completes.forM fun found (_ : found ∈ pe_file.sections) =>
      loadSection_completes profile pe_file load_pbase found).bind fun _ =>
    (relocation_completes profile pe_file load_pbase load_vbase
      (Nat.le_trans (Nat.le_add_right _ _) hinside)).bind fun _ =>
    Yields.lift (profile.add64 load_vbase (pe_file.entry_point - pe_file.image_base))
  refine hload.congr ?_
  intro entry
  exact ⟨fun ⟨hfirst, hsecond, hthird, hentry⟩ => ⟨⟨hfirst, hsecond, hthird⟩, hentry⟩,
    fun ⟨⟨hfirst, hsecond, hthird⟩, hentry⟩ => ⟨hfirst, hsecond, hthird, hentry⟩⟩

end Image

/-- A file that loading can place at the given addresses. -/
structure Places (host : Host) (dir : Directory) (name : String) (p_base v_base : UInt64) (loaded : LoadedModule) :
    Prop where
  planned : planModule host dir name p_base v_base = .ok loaded
  loads : Loads host.profile loaded.pe loaded.p_base loaded.v_base

/-- A planned module carries its moved entry. -/
theorem planModule_entry {host : Host} {dir : Directory} {name : String} {p_base v_base : UInt64}
    {loaded : LoadedModule} (h : planModule host dir name p_base v_base = .ok loaded) :
    host.profile.add64 loaded.v_base (loaded.pe.entry_point - loaded.pe.image_base) = .ok loaded.entry := by
  obtain ⟨⟨pe, size⟩, _, h⟩ := bind_eq_ok_iff.mp h
  obtain ⟨entry, hentry, h⟩ := bind_eq_ok_iff.mp h
  cases h
  exact hentry

theorem planDirectory_entries {host : Host} {dir : Directory} {k_pbase k_vbase : UInt64} {modules : List LoadedModule}
    (h : planDirectory host dir k_pbase k_vbase = .ok modules) : ∀ loaded ∈ modules,
      host.profile.add64 loaded.v_base (loaded.pe.entry_point - loaded.pe.image_base) = .ok loaded.entry := by
  have hdrivers : ∀ {names p_cursor v_cursor drivers}, planDrivers host dir names p_cursor v_cursor = .ok drivers →
      ∀ loaded ∈ drivers,
        host.profile.add64 loaded.v_base (loaded.pe.entry_point - loaded.pe.image_base) = .ok loaded.entry := by
    intro names
    induction names with
    | nil =>
      intro p_cursor v_cursor drivers hplanned
      cases hplanned
      simp
    | cons name names ih =>
      intro p_cursor v_cursor drivers hplanned
      obtain ⟨loaded, hloaded, hplanned⟩ := bind_eq_ok_iff.mp hplanned
      obtain ⟨rest, hrest, hplanned⟩ := bind_eq_ok_iff.mp hplanned
      cases hplanned
      exact List.forall_mem_cons.mpr ⟨planModule_entry hloaded, ih hrest⟩
  obtain ⟨ntoskrnl, hntoskrnl, h⟩ := bind_eq_ok_iff.mp h
  obtain ⟨hal, hhal, h⟩ := bind_eq_ok_iff.mp h
  obtain ⟨kd, hkd, h⟩ := bind_eq_ok_iff.mp h
  obtain ⟨kdcom, hkdcom, h⟩ := bind_eq_ok_iff.mp h
  obtain ⟨drivers, hplanned, h⟩ := bind_eq_ok_iff.mp h
  cases h
  simp only [List.forall_mem_cons]
  exact ⟨planModule_entry hntoskrnl, planModule_entry hhal, planModule_entry hkd, planModule_entry hkdcom,
    hdrivers hplanned⟩

section Directory

variable {host : Host} (hempty : host.object [] = none) {dir : Directory}

include hempty

/-- The first page of an accepted file is not empty. -/
theorem header_ne_nil {name : String} {pe : PeFile} {size : UInt32} (hopen : openFile host dir name = .ok (pe, size)) :
    pe.header_data ≠ [] := by
  obtain ⟨bytes, _, hparse, _⟩ := openFile_eq_ok hopen
  obtain ⟨file, hparsed⟩ := parse_eq_ok hparse
  intro hheader
  rw [hparsed.header_data] at hheader
  rcases List.take_eq_nil_iff.mp hheader with habsurd | rfl
  · cases habsurd
  · have haccepted := hparsed.accepted
    rw [hempty] at haccepted
    cases haccepted

omit hempty in
/-- An opened and loaded image is a placed one, and the other way round. -/
private theorem places_iff {name : String} {p_base v_base : UInt64} {loaded : LoadedModule} :
    Places host dir name p_base v_base loaded ↔ ∃ file, openFile host dir name = .ok file ∧
      Loads host.profile file.1 p_base v_base ∧ ∃ entry,
        host.profile.add64 v_base (file.1.entry_point - file.1.image_base) = .ok entry ∧
          loaded = { name, v_base, p_base, entry, size := file.2, pe := file.1 } := by
  constructor
  · rintro ⟨hplanned, hloads⟩
    obtain ⟨hname, hp_base, hv_base, hopen⟩ := planModule_eq_ok hplanned
    have hentry := planModule_entry hplanned
    rw [hv_base] at hentry
    obtain ⟨name', v_base', p_base', entry, size, pe⟩ := loaded
    subst hname hp_base hv_base
    exact ⟨(pe, size), hopen, hloads, entry, hentry, rfl⟩
  · rintro ⟨⟨pe, size⟩, hopen, hloads, entry, hentry, rfl⟩
    exact ⟨planModule_of_ok hopen hentry, hloads⟩

omit hempty in
/-- An image in guest memory leaves room for the cursor behind it. -/
private theorem advanced_eq_ok {p_base : UInt64} (size : UInt32) (hinside : p_base.toNat ≤ MEM_SIZE.toNat) :
    host.profile.add64 p_base (alignedSize size) = .ok (p_base + alignedSize size) := by
  have hsize := MEM_SIZE_toNat
  have hround := roundUp_le size
  apply Profile.add64_of_lt
  rw [alignedSize_toNat]
  omega

theorem load_file_fixed_yields (self : KernelLoader) (name : String) (p_cursor v_base : UInt64) :
    Yields (self.load_file_fixed host dir name p_cursor v_base) fun placed => ∃ loaded,
      Places host dir name p_cursor v_base loaded ∧
        placed = (self.push loaded,
          if name = "ntoskrnl.exe" then 0x2000000 else p_cursor + alignedSize loaded.size) := by
  have hchain := (Yields.lift (openFile host dir name)).bind fun (file : PeFile × UInt32) hopen =>
    (Yields.lift (host.profile.add64 p_cursor (alignedSize file.2))).bind fun advanced _ =>
      (load_sections_yields host.profile file.1 p_cursor v_base (header_ne_nil hempty hopen)).bind fun entry _ =>
          Yields.pure (self.push { name, v_base, p_base := p_cursor, entry, size := file.2, pe := file.1 },
            if name = "ntoskrnl.exe" then (0x2000000 : UInt64) else advanced)
  refine Yields.congr hchain ?_
  intro placed
  constructor
  · rintro ⟨file, hopen, advanced, hadvanced, entry, ⟨hloads, hentry⟩, rfl⟩
    refine ⟨_, places_iff.mpr ⟨file, hopen, hloads, entry, hentry, rfl⟩, ?_⟩
    rw [Profile.eq_of_add64 hadvanced]
  · rintro ⟨loaded, hplaces, rfl⟩
    obtain ⟨file, hopen, hloads, entry, hentry, rfl⟩ := places_iff.mp hplaces
    have hadvanced := @advanced_eq_ok host p_cursor file.2 (Nat.le_trans (Nat.le_add_right _ _) hloads.header)
    exact ⟨file, hopen, _, hadvanced, entry, ⟨hloads, hentry⟩, rfl⟩

/-- The virtual cursor stays behind the physical one, so that it cannot
    overflow either. -/
theorem load_file_dynamic_yields (self : KernelLoader) (name : String) {p_cursor v_cursor : UInt64}
    (hlock : v_cursor.toNat ≤ DRIVER_VBASE.toNat + p_cursor.toNat) :
    Yields (self.load_file_dynamic host dir name p_cursor v_cursor) fun placed => ∃ loaded,
      Places host dir name p_cursor v_cursor loaded ∧
        placed = (self.push loaded, p_cursor + alignedSize loaded.size, v_cursor + alignedSize loaded.size) := by
  have hchain := (Yields.lift (openFile host dir name)).bind fun (file : PeFile × UInt32) hopen =>
    (Yields.lift (host.profile.add64 p_cursor (alignedSize file.2))).bind fun next_p _ =>
      (Yields.lift (host.profile.add64 v_cursor (alignedSize file.2))).bind fun next_v _ =>
        (load_sections_yields host.profile file.1 p_cursor v_cursor (header_ne_nil hempty hopen)).bind fun entry _ =>
            Yields.pure (self.push
              { name, v_base := v_cursor, p_base := p_cursor, entry, size := file.2, pe := file.1 }, next_p, next_v)
  refine Yields.congr hchain ?_
  intro placed
  constructor
  · rintro ⟨file, hopen, next_p, hnext_p, next_v, hnext_v, entry, ⟨hloads, hentry⟩, rfl⟩
    refine ⟨_, places_iff.mpr ⟨file, hopen, hloads, entry, hentry, rfl⟩, ?_⟩
    rw [Profile.eq_of_add64 hnext_p, Profile.eq_of_add64 hnext_v]
  · rintro ⟨loaded, hplaces, rfl⟩
    obtain ⟨file, hopen, hloads, entry, hentry, rfl⟩ := places_iff.mp hplaces
    have hinside : p_cursor.toNat ≤ MEM_SIZE.toNat := Nat.le_trans (Nat.le_add_right _ _) hloads.header
    have hnext_v : host.profile.add64 v_cursor (alignedSize file.2) = .ok (v_cursor + alignedSize file.2) := by
      have hsize := MEM_SIZE_toNat
      have hstart := DRIVER_VBASE_toNat
      have hround := roundUp_le file.2
      apply Profile.add64_of_lt
      rw [alignedSize_toNat]
      omega
    exact ⟨file, hopen, _, advanced_eq_ok file.2 hinside, _, hnext_v, entry, ⟨hloads, hentry⟩, rfl⟩

/-- The driver loop loads what is planned if everything in the plan can be
    loaded. -/
theorem loadDrivers_yields (self : KernelLoader) (names : List String) {p_cursor v_cursor : UInt64}
    (hlock : v_cursor.toNat ≤ DRIVER_VBASE.toNat + p_cursor.toNat) :
    Yields (loadDrivers host dir self names p_cursor v_cursor) fun placed => ∃ drivers,
      planDrivers host dir names p_cursor v_cursor = .ok drivers ∧
        (∀ loaded ∈ drivers, Loads host.profile loaded.pe loaded.p_base loaded.v_base) ∧
        placed = (⟨self.modules ++ drivers⟩, cursorBehind p_cursor drivers, cursorBehind v_cursor drivers) := by
  induction names generalizing self p_cursor v_cursor with
  | nil =>
    refine (Yields.pure (self, p_cursor, v_cursor)).congr ?_
    intro placed
    constructor
    · rintro rfl
      exact ⟨[], rfl, by simp, by rw [List.append_nil]; rfl⟩
    · rintro ⟨drivers, hplanned, _, rfl⟩
      cases hplanned
      rw [List.append_nil]
      rfl
  | cons name names ih =>
    have hnext : ∀ loaded, Places host dir name p_cursor v_cursor loaded →
        (v_cursor + alignedSize loaded.size).toNat ≤
          DRIVER_VBASE.toNat + (p_cursor + alignedSize loaded.size).toNat := by
      intro loaded hplaces
      obtain ⟨file, _, hloads, _, _, rfl⟩ := places_iff.mp hplaces
      have hinside := hloads.header
      have hsize := MEM_SIZE_toNat
      have hstart := DRIVER_VBASE_toNat
      have hround := roundUp_le file.2
      have haligned := alignedSize_toNat file.2
      change (v_cursor + alignedSize file.2).toNat ≤ DRIVER_VBASE.toNat + (p_cursor + alignedSize file.2).toNat
      rw [BitField.toNat_add_of_lt (by omega), BitField.toNat_add_of_lt (by omega)]
      omega
    have hchain := (@load_file_dynamic_yields host hempty dir self name _ _ hlock).bind fun placed hplaced =>
      @ih placed.1 placed.2.1 placed.2.2 (by
        obtain ⟨loaded, hplaces, rfl⟩ := hplaced
        exact hnext loaded hplaces)
    rw [loadDrivers, List.foldlM_cons]
    refine Yields.congr hchain ?_
    intro placed
    constructor
    · rintro ⟨_, ⟨loaded, ⟨hplanned, hloads⟩, rfl⟩, drivers, hdrivers, hall, rfl⟩
      refine ⟨loaded :: drivers, ?_, List.forall_mem_cons.mpr ⟨hloads, hall⟩, ?_⟩
      · rw [planDrivers, hplanned, ok_bind, hdrivers]
        rfl
      · rw [KernelLoader.push, List.append_assoc]
        rfl
    · rintro ⟨_, hplanned, hall, rfl⟩
      obtain ⟨loaded, hloaded, hplanned⟩ := bind_eq_ok_iff.mp hplanned
      obtain ⟨drivers, hdrivers, hplanned⟩ := bind_eq_ok_iff.mp hplanned
      cases hplanned
      obtain ⟨hloads, hall⟩ := List.forall_mem_cons.mp hall
      refine ⟨_, ⟨loaded, ⟨hloaded, hloads⟩, rfl⟩, drivers, hdrivers, hall, ?_⟩
      rw [KernelLoader.push, List.append_assoc]
      rfl

/-- The fixed loop loads the four planned modules if each can be loaded. -/
theorem loadFixed_yields (k_pbase k_vbase : UInt64) :
    Yields (loadFixed host dir k_pbase k_vbase) fun placed => ∃ ntoskrnl hal kd kdcom,
      Places host dir "ntoskrnl.exe" k_pbase k_vbase ntoskrnl ∧
        Places host dir "hal.dll" 0x2000000 0xFFFFF80002000000 hal ∧
        Places host dir "kd.dll" (cursorBehind 0x2000000 [hal]) 0xFFFFF80000600000 kd ∧
        Places host dir "kdcom.dll" (cursorBehind 0x2000000 [hal, kd]) 0xFFFFF80000800000 kdcom ∧
        placed = (⟨[ntoskrnl, hal, kd, kdcom]⟩, cursorBehind 0x2000000 [hal, kd, kdcom]) := by
  have hload := @load_file_fixed_yields host hempty dir
  have hchain := (hload .new "ntoskrnl.exe" k_pbase k_vbase).bind fun first _ =>
    (hload first.1 "hal.dll" first.2 0xFFFFF80002000000).bind fun second _ =>
      (hload second.1 "kd.dll" second.2 0xFFFFF80000600000).bind fun third _ =>
        (hload third.1 "kdcom.dll" third.2 0xFFFFF80000800000).bind fun fourth _ => Yields.pure fourth
  have hthree : ("hal.dll" ≠ "ntoskrnl.exe") ∧ ("kd.dll" ≠ "ntoskrnl.exe") ∧ ("kdcom.dll" ≠ "ntoskrnl.exe") := by
    decide
  unfold loadFixed essentials
  simp only [List.foldlM_cons, List.foldlM_nil]
  refine Yields.congr hchain ?_
  intro placed
  constructor
  · rintro ⟨_, ⟨ntoskrnl, hntoskrnl, rfl⟩, _, ⟨hal, hhal, rfl⟩, _, ⟨kd, hkd, rfl⟩, _, ⟨kdcom, hkdcom, rfl⟩, rfl⟩
    simp only [if_true, if_neg hthree.1, if_neg hthree.2.1, if_neg hthree.2.2] at hhal hkd hkdcom ⊢
    exact ⟨ntoskrnl, hal, kd, kdcom, hntoskrnl, hhal, hkd, hkdcom, rfl⟩
  · rintro ⟨ntoskrnl, hal, kd, kdcom, hntoskrnl, hhal, hkd, hkdcom, rfl⟩
    refine ⟨_, ⟨ntoskrnl, hntoskrnl, rfl⟩, _, ⟨hal, hhal, rfl⟩, _, ⟨kd, ?_, rfl⟩, _, ⟨kdcom, ?_, rfl⟩, ?_⟩
    · simp only [if_neg hthree.1]
      exact hkd
    · simp only [if_neg hthree.1, if_neg hthree.2.1]
      exact hkdcom
    · simp only [if_neg hthree.1, if_neg hthree.2.1, if_neg hthree.2.2]
      rfl

end Directory

/-- A directory that can be loaded: it can be listed, its files can be parsed
    and measured, and every image fits where the plan puts it. -/
structure DirectoryLoads (host : Host) (dir : Directory) (k_pbase k_vbase : UInt64) (modules : List LoadedModule) :
    Prop where
  listed : ∃ paths, dir.paths = .ok paths
  planned : planDirectory host dir k_pbase k_vbase = .ok modules
  images : ∀ loaded ∈ modules, Loads host.profile loaded.pe loaded.p_base loaded.v_base

/-- Loading a directory succeeds exactly when it can be loaded, and returns its
    plan. -/
theorem load_directory_yields {host : Host} (hempty : host.object [] = none) (dir : Directory)
    (k_pbase k_vbase : UInt64) :
    Yields (KernelLoader.load_directory host .new dir k_pbase k_vbase) fun kloader =>
      DirectoryLoads host dir k_pbase k_vbase kloader.modules := by
  have hchain := (@loadFixed_yields host hempty dir k_pbase k_vbase).bind fun fixed _ =>
    (Yields.lift dir.paths).bind fun paths _ =>
      (@loadDrivers_yields host hempty dir fixed.1 (paths.filterMap (driverName host.cases)) fixed.2
        0xFFFFF80040000000 (by rw [DRIVER_VBASE_toNat]; exact Nat.le_add_right _ _)).bind fun placed _ =>
          Yields.pure placed.1
  refine Yields.congr hchain ?_
  intro kloader
  constructor
  · rintro ⟨_, ⟨ntoskrnl, hal, kd, kdcom, hntoskrnl, hhal, hkd, hkdcom, rfl⟩, paths, hpaths, _,
      ⟨drivers, hdrivers, hall, rfl⟩, rfl⟩
    have hnames : driverNames host dir = paths.filterMap (driverName host.cases) := by rw [driverNames, hpaths]
    refine ⟨⟨paths, hpaths⟩, ?_, ?_⟩
    · simp only [cursorBehind] at hkd hkdcom hdrivers
      simp only [planDirectory, hntoskrnl.planned, hhal.planned, hkd.planned, hkdcom.planned, hnames, hdrivers, ok_bind]
      rfl
    · intro loaded hloaded
      simp only [List.cons_append, List.nil_append, List.mem_cons] at hloaded
      rcases hloaded with rfl | rfl | rfl | rfl | hdriver
      · exact hntoskrnl.loads
      · exact hhal.loads
      · exact hkd.loads
      · exact hkdcom.loads
      · exact hall loaded hdriver
  · rintro ⟨⟨paths, hpaths⟩, hplanned, hall⟩
    have hnames : driverNames host dir = paths.filterMap (driverName host.cases) := by rw [driverNames, hpaths]
    obtain ⟨ntoskrnl, hntoskrnl, hplanned⟩ := bind_eq_ok_iff.mp hplanned
    obtain ⟨hal, hhal, hplanned⟩ := bind_eq_ok_iff.mp hplanned
    obtain ⟨kd, hkd, hplanned⟩ := bind_eq_ok_iff.mp hplanned
    obtain ⟨kdcom, hkdcom, hplanned⟩ := bind_eq_ok_iff.mp hplanned
    obtain ⟨drivers, hdrivers, hplanned⟩ := bind_eq_ok_iff.mp hplanned
    injection hplanned with hmodules
    obtain rfl : kloader = ⟨ntoskrnl :: hal :: kd :: kdcom :: drivers⟩ := by rw [hmodules]
    rw [hnames] at hdrivers
    simp only [List.forall_mem_cons] at hall
    obtain ⟨hall0, hall1, hall2, hall3, halls⟩ := hall
    exact ⟨_, ⟨ntoskrnl, hal, kd, kdcom, ⟨hntoskrnl, hall0⟩, ⟨hhal, hall1⟩, ⟨hkd, hall2⟩, ⟨hkdcom, hall3⟩, rfl⟩,
      paths, hpaths, _, ⟨drivers, hdrivers, halls, rfl⟩, rfl⟩

/-- Imports that can be bound: the tables of every module can be read, every
    name in them can be looked up, and the slots of those that resolve lie in
    guest memory. -/
structure Binds (resolver : ForwarderResolver) : Prop where
  imports : ∀ loaded ∈ resolver.modules, ∃ imports, loaded.pe.get_imports resolver.profile = .ok imports
  slots : ∀ imported ∈ allImports resolver, ∃ resolved,
    resolver.resolve imported.dll_name imported.func.name = .ok resolved ∧ ∀ addr, resolved = some addr →
      ∃ iat_paddr, resolver.profile.add64 imported.loaded.p_base imported.func.iat_rva.toUInt64 = .ok iat_paddr ∧
        iat_paddr.toNat + 8 ≤ MEM_SIZE.toNat

/-- An import of a bound module resolves to the chains from its name. -/
theorem Binds.target_eq {resolver : ForwarderResolver} (hbinds : Binds resolver) {imported : Import}
    (himported : imported ∈ allImports resolver) (address : UInt64) :
    imported.target resolver = some address ↔ resolver.Chain 10 imported.dll_name imported.func.name address := by
  obtain ⟨resolved, hresolve, _⟩ := hbinds.slots imported himported
  have hend : resolver.resolve imported.dll_name imported.func.name =
      .ok (resolver.chainEnd 11 imported.dll_name imported.func.name) :=
    ForwarderResolver.resolve_recursive_eq_chainEnd fun hops hhops last_dll last_func =>
      ForwarderResolver.looksUp_of_reaches hresolve (by omega)
  rw [Import.target, hend, ← ForwarderResolver.chainEnd_eq_some_iff]

private theorem bindFunction_completes (resolver : ForwarderResolver) (loaded : LoadedModule) (dll_name : String)
    (func : ImportFunction) : Completes (bindFunction resolver loaded dll_name func)
      (∃ resolved, resolver.resolve dll_name func.name = .ok resolved ∧ ∀ addr, resolved = some addr →
        ∃ iat_paddr, resolver.profile.add64 loaded.p_base func.iat_rva.toUInt64 = .ok iat_paddr ∧
          iat_paddr.toNat + 8 ≤ MEM_SIZE.toNat) := by
  unfold bindFunction
  refine (Yields.lift _).bind fun resolved _ => ?_
  cases resolved with
  | none => exact (Completes.of_returns fun before => ⟨before, rfl⟩).congr fun _ => by simp
  | some addr =>
    have hwrite := (Yields.lift (resolver.profile.add64 loaded.p_base func.iat_rva.toUInt64)).bind fun iat_paddr _ =>
      write_memory_completes resolver.profile iat_paddr (ofUInt64 addr)
    exact Yields.congr hwrite fun _ => by simp [length_ofUInt64]

/-- Binding succeeds exactly when the imports can be bound. -/
theorem bind_all_completes (profile : Profile) (cases : CaseMap) (self : KernelLoader) :
    Completes (self.bind_all profile cases) (Binds (self.resolver profile cases)) := by
  have hloop := Completes.forM fun loaded (_ : loaded ∈ self.modules) =>
    (Yields.lift (loaded.pe.get_imports profile)).bind fun imports _ =>
      Completes.forM fun imp (_ : imp ∈ imports) => Completes.forM fun func (_ : func ∈ imp.functions) =>
        bindFunction_completes (self.resolver profile cases) loaded imp.dll_name func
  refine Yields.congr hloop fun _ => ?_
  have hmember : ∀ {loaded imports}, loaded.pe.get_imports profile = .ok imports → ∀ imported,
      imported ∈ moduleImports profile loaded ↔
        ∃ imp ∈ imports, ∃ func ∈ imp.functions, imported = ⟨loaded, imp.dll_name, func⟩ := by
    intro loaded imports himports imported
    simp only [moduleImports, himports, List.mem_flatMap, List.mem_map, eq_comm]
  constructor
  · intro hall
    refine ⟨fun loaded hloaded => ?_, fun imported himported => ?_⟩
    · obtain ⟨imports, himports, _⟩ := hall loaded hloaded
      exact ⟨imports, himports⟩
    · obtain ⟨loaded, hloaded, himport⟩ := List.mem_flatMap.mp himported
      obtain ⟨imports, himports, hbound⟩ := hall loaded hloaded
      obtain ⟨imp, himp, func, hfunc, rfl⟩ := (hmember himports imported).mp himport
      exact hbound imp himp func hfunc
  · intro hbinds loaded hloaded
    obtain ⟨imports, himports⟩ := hbinds.imports loaded hloaded
    refine ⟨imports, himports, fun imp himp func hfunc => ?_⟩
    exact hbinds.slots ⟨loaded, imp.dll_name, func⟩
      (List.mem_flatMap.mpr ⟨loaded, hloaded, (hmember himports _).mpr ⟨imp, himp, func, hfunc, rfl⟩⟩)

end vwfl.loader
