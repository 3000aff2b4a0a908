import Vwfl.Loader.Isolation
import Vwfl.Loader.Success
import Vwfl.Loader.Views

open Rust ByteStore LittleEndian Stateful Transition
open vwfl.vm vwfl.pe vwfl.forwarder

namespace vwfl.loader

/-- An image whose parts keep to themselves: its sections and its fixups do not
    overlap, and all of them lie in its range. -/
structure Image.WellFormed (profile : Profile) (image : Image) : Prop extends image.Contained profile where
  sections : image.pe.sections.Pairwise fun first second =>
    Disjoint (sectionRva image.pe first) first.raw_data.length (sectionRva image.pe second) second.raw_data.length
  fixups : image.v_base ≠ image.pe.image_base →
    (image.pe.fixups profile).Pairwise fun first second => Disjoint first 8 second 8

instance (profile : Profile) (image : Image) : Decidable (image.WellFormed profile) :=
  decidable_of_iff (((∀ found ∈ image.pe.sections, sectionRva image.pe found + found.virtual_size.toNat < 2 ^ 32) ∧
      (image.v_base ≠ image.pe.image_base → ∀ target ∈ image.pe.fixups profile,
        image.p_base.toNat + target + 8 ≤ MEM_SIZE.toNat → target + 8 ≤ (alignedSize image.size).toNat)) ∧
      (image.pe.sections.Pairwise fun first second => Disjoint (sectionRva image.pe first) first.raw_data.length
        (sectionRva image.pe second) second.raw_data.length) ∧
      (image.v_base ≠ image.pe.image_base →
        (image.pe.fixups profile).Pairwise fun first second => Disjoint first 8 second 8))
    ⟨fun ⟨⟨hextent, hrelocations⟩, hsections, hfixups⟩ => ⟨⟨hextent, hrelocations⟩, hsections, hfixups⟩,
      fun hformed => ⟨⟨hformed.extent, hformed.relocations⟩, hformed.sections, hformed.fixups⟩⟩

/-- An address of the image that no fixup covers. -/
def Image.Unmoved (profile : Profile) (image : Image) (rva : Nat) : Prop :=
  image.v_base = image.pe.image_base ∨ ∀ target ∈ image.pe.fixups profile, ¬ Within target 8 rva

/-- What memory holds of a file once it is loaded, apart from the given
    addresses: the bytes of its sections, and the moved words at its fixups. -/
structure Image.Holds (profile : Profile) (image : Image) (overwritten : Nat → Prop) (mem : Nat → UInt8) : Prop where
  content : ∀ found ∈ image.pe.sections, ∀ index (h : index < found.raw_data.length),
    image.Unmoved profile (sectionRva image.pe found + index) →
      ¬ overwritten (image.p_base.toNat + (sectionRva image.pe found + index)) →
        mem (image.p_base.toNat + (sectionRva image.pe found + index)) = found.raw_data[index]
  fixup : image.v_base ≠ image.pe.image_base → ∀ found ∈ image.pe.sections, ∀ index,
    index + 8 ≤ found.raw_data.length → sectionRva image.pe found + index ∈ image.pe.fixups profile →
      image.p_base.toNat + (sectionRva image.pe found + index) + 8 ≤ MEM_SIZE.toNat →
        (∀ address, Within (image.p_base.toNat + (sectionRva image.pe found + index)) 8 address →
            ¬ overwritten address) →
          word mem (image.p_base.toNat + (sectionRva image.pe found + index)) =
            toUInt64 ((found.raw_data.drop index).take 8) + (image.v_base - image.pe.image_base)

section Relocation

variable {profile : Profile} {p_base : UInt64}

theorem blockFixups_of_short {data : List UInt8} {offset : Nat} (hroom : ¬ offset + 8 ≤ data.length) (fuel : Nat) :
    blockFixups profile data fuel offset = [] := by
  cases fuel with
  | zero => rfl
  | succ fuel =>
    unfold blockFixups
    split
    · rename_i hpage hsize
      exact absurd (headerAt_iff.mpr ⟨hpage, hsize⟩).inside hroom
    · rfl

/-- A block loop that returns has moved the words that its entries name, as far
    as they lie in guest memory. -/
theorem blockLoop_mem (hbase : p_base.toNat ≤ MEM_SIZE.toNat) (delta : UInt64) {data : List UInt8} {fuel offset : Nat}
    {before after : Vm} (h : (blockLoop profile p_base delta data fuel offset).run before = .ok () after) :
    after.mem = relocated p_base delta before.mem (inMemory p_base (blockFixups profile data fuel offset)) := by
  induction fuel generalizing offset before with
  | zero => cases h
  | succ fuel ih =>
    rw [blockLoop] at h
    by_cases hroom : offset + 8 ≤ data.length
    · obtain ⟨page_rva, block_size, hheader⟩ := exists_headerAt hroom
      obtain ⟨hpage, hsize⟩ := headerAt_iff.mp hheader
      simp only [if_pos hroom, hpage, hsize] at h
      rw [bind_run, lift_ok_run] at h
      simp only [] at h
      rw [bind_run, lift_ok_run] at h
      simp only [blockFixups, hpage, hsize] at h ⊢
      by_cases hzero : block_size = 0
      · rw [if_pos hzero] at h ⊢
        cases h
        rfl
      · rw [if_neg hzero] at h ⊢
        obtain ⟨entry_bytes, _, hsub, hblock⟩ := bind_run_eq_ok_iff.mp h
        obtain ⟨hbytes, rfl⟩ := lift_run_eq_ok_iff.mp hsub
        obtain ⟨_, middle, hentries, hlater⟩ := bind_run_eq_ok_iff.mp hblock
        rw [entryLoop_run_inMemory profile hbase delta] at hentries
        cases hentries
        simp only [hbytes]
        rw [ih hlater, inMemory_append, relocated_append]
    · rw [if_neg hroom] at h
      cases h
      rw [blockFixups_of_short hroom (fuel + 1)]
      rfl

/-- Relocation as loading calls it moves every word that the relocation section
    names in guest memory, by nothing at the preferred address. -/
theorem apply_relocation_mem (hbase : p_base.toNat ≤ MEM_SIZE.toNat) {pe : PeFile} {v_base : UInt64} {before after : Vm}
    (h : (Stateful.ok (pe.apply_relocation profile p_base v_base)).run before = .ok () after) :
    after.mem = relocated p_base (v_base - pe.image_base) before.mem (inMemory p_base (pe.fixups profile)) := by
  by_cases hdelta : v_base - pe.image_base = 0
  · have hrun : (pe.apply_relocation profile p_base v_base).run before = .ok () before := by
      unfold PeFile.apply_relocation
      simp only [if_pos hdelta]
      rfl
    rw [ok_run_of_ok hrun] at h
    cases h
    rw [hdelta, relocated, patchAll_id fun value => UInt64.add_zero value]
  · unfold PeFile.apply_relocation at h
    unfold PeFile.fixups
    simp only [if_neg hdelta] at h
    cases hfound : pe.sections.find? (·.name == ".reloc") with
    | none =>
      rw [hfound] at h
      cases h
      rfl
    | some reloc_section =>
      rw [hfound] at h
      rcases ok_run_eq_ok_iff.mp h with ⟨_, hrun⟩ | ⟨message, hrun⟩
      · exact blockLoop_mem hbase _ hrun
      · -- The loop cannot end in an `Err`.
        have hloop := blockLoop_returns_or_panics profile p_base hbase (v_base - pe.image_base) (Nat.succ_pos _)
          (show reloc_section.raw_data.length < 0 + (reloc_section.raw_data.length + 1) by omega) before
        change (blockLoop profile p_base _ reloc_section.raw_data (reloc_section.raw_data.length + 1) 0).run before = _
          at hrun
        rw [hrun] at hloop
        rcases hloop with ⟨_, hother⟩ | ⟨_, _, _, hother⟩
        · cases hother
        · cases hother

end Relocation

section Sections

variable {profile : Profile} {image : Image}

/-- Eight bytes of a copied section. -/
theorem imageWrites_load {pe : PeFile} {p_base : UInt64} {mem : Nat → UInt8}
    (hdisjoint : pe.sections.Pairwise fun first second =>
      Disjoint (sectionRva pe first) first.raw_data.length (sectionRva pe second) second.raw_data.length)
    {found : Section} (hfound : found ∈ pe.sections) {index : Nat} (hinside : index + 8 ≤ found.raw_data.length) :
    load (storeAll mem (imageWrites pe p_base)) (p_base.toNat + (sectionRva pe found + index)) 8 =
      (found.raw_data.drop index).take 8 := by
  have hlength : ((found.raw_data.drop index).take 8).length = 8 := by
    rw [List.length_take, List.length_drop]
    omega
  have hbytes := (load_eq_iff (storeAll mem (imageWrites pe p_base)) (p_base.toNat + (sectionRva pe found + index))
    ((found.raw_data.drop index).take 8)).mpr (by
      intro offset hoffset
      rw [List.getElem_take, List.getElem_drop,
        ← @imageWrites_content pe p_base mem hdisjoint found hfound (index + offset) (by omega)]
      congr 1
      omega)
  rwa [hlength] at hbytes

/-- The exact effect of loading an image: the copy, moved at its fixups. -/
theorem load_sections_mem (hheader : image.pe.header_data ≠ [])
    (hrva : ∀ found ∈ image.pe.sections, sectionRva image.pe found < 2 ^ 32) {before after : Vm} {entry : UInt64}
    (h : (load_sections profile image.pe image.p_base image.v_base).run before = .ok entry after) :
    after.mem = relocated image.p_base (image.v_base - image.pe.image_base)
      (storeAll before.mem (imageWrites image.pe image.p_base)) (inMemory image.p_base (image.pe.fixups profile)) := by
  rw [load_sections_eq] at h
  obtain ⟨_, copied, hcopy, hrest⟩ := bind_run_eq_ok_iff.mp h
  obtain ⟨_, fixed, hfixed, hentry⟩ := bind_run_eq_ok_iff.mp hrest
  obtain ⟨_, rfl⟩ := lift_run_eq_ok_iff.mp hentry
  obtain ⟨_, header, hload, _⟩ := bind_run_eq_ok_iff.mp hcopy
  rw [apply_relocation_mem ((loadHeader_eq_ok hload).1 hheader) hfixed, copyImage_mem hheader hrva hcopy]

/-- A loaded image holds its file. -/
theorem load_sections_holds (hheader : image.pe.header_data ≠ []) (hformed : image.WellFormed profile)
    {before after : Vm} {entry : UInt64}
    (h : (load_sections profile image.pe image.p_base image.v_base).run before = .ok entry after) :
    image.Holds profile (fun _ => False) after.mem := by
  have hmem := load_sections_mem hheader (fun found hfound => by
    have hextent := hformed.extent found hfound
    omega) h
  rw [hmem]
  constructor
  case content =>
    intro found hfound index hindex hunmoved _
    have hcopied := @imageWrites_content image.pe image.p_base before.mem hformed.sections found hfound index hindex
    rw [Nat.add_assoc] at hcopied
    rw [← hcopied]
    rcases hunmoved with hsame | houtside
    · rw [hsame, UInt64.sub_self, relocated, patchAll_id fun value => UInt64.add_zero value]
    · apply relocated_outside
      intro target htarget hin
      apply houtside target (List.mem_of_mem_filter htarget)
      unfold Within at hin ⊢
      omega
  case fixup =>
    intro hmoved found hfound index hinside htarget hfits _
    have hpairs : (inMemory image.p_base (image.pe.fixups profile)).Pairwise fun first second =>
        Disjoint first 8 second 8 := (hformed.fixups hmoved).filter _
    have hmember : sectionRva image.pe found + index ∈ inMemory image.p_base (image.pe.fixups profile) :=
      List.mem_filter.mpr ⟨htarget, decide_eq_true hfits⟩
    rw [relocated_inside _ _ _ hpairs hmember, word, imageWrites_load hformed.sections hfound hinside]

/-- What is held of a file lies in the range of the image. -/
theorem Image.Measured.content_range (hmeasured : image.Measured profile) (hcontained : image.Contained profile)
    {found : Section} (hfound : found ∈ image.pe.sections) {index : Nat} (hindex : index < found.raw_data.length) :
    image.Range (image.p_base.toNat + (sectionRva image.pe found + index)) := by
  have hsection := hmeasured.sections_le hcontained hfound
  have hraw := (hmeasured.sections found hfound).2
  have haligned := le_alignedSize image.size
  exact ⟨Nat.le_add_right _ _, by omega⟩

/-- Stores elsewhere, and stores whose places are named, keep what is held. -/
theorem Image.Holds.kept {overwritten : Nat → Prop} {mem after : Nat → UInt8}
    (h : image.Holds profile overwritten mem) (later : Nat → Prop) (hmeasured : image.Measured profile)
    (hcontained : image.Contained profile)
    (hsame : ∀ address, image.Range address → ¬ later address → after address = mem address) :
    image.Holds profile (fun address => overwritten address ∨ later address) after := by
  constructor
  case content =>
    intro found hfound index hindex hunmoved houtside
    rw [not_or] at houtside
    rw [hsame _ (hmeasured.content_range hcontained hfound hindex) houtside.2]
    exact h.content found hfound index hindex hunmoved houtside.1
  case fixup =>
    intro hmoved found hfound index hinside htarget hfits houtside
    rw [← h.fixup hmoved found hfound index hinside htarget hfits fun address hin =>
      (not_or.mp (houtside address hin)).1]
    apply word_congr
    intro address hin
    apply hsame address _ (not_or.mp (houtside address hin)).2
    obtain ⟨hlow, hhigh⟩ := hin
    have hbyte := hmeasured.content_range hcontained hfound (show index + (address - (image.p_base.toNat +
      (sectionRva image.pe found + index))) < found.raw_data.length by omega)
    rwa [← Nat.add_assoc, ← Nat.add_assoc, show image.p_base.toNat + sectionRva image.pe found + index + (address -
      (image.p_base.toNat + (sectionRva image.pe found + index))) = address by omega] at hbyte

end Sections

section Directory

variable {host : Host} {dir : Directory}

/-- The ranges of the modules have no address in common. -/
def RangesApart (modules : List LoadedModule) : Prop :=
  modules.Pairwise fun first second =>
    Disjoint first.p_base.toNat (alignedSize first.size).toNat second.p_base.toNat (alignedSize second.size).toNat

instance (modules : List LoadedModule) : Decidable (RangesApart modules) :=
  inferInstanceAs (Decidable (List.Pairwise _ _))

/-- Later loads keep a byte that lies in none of their images. -/
private theorem run_outside {modules : List LoadedModule} {before after : Vm} (hobject : host.object.Sound)
    (hrun : Run (workStep host.profile) before (modules.map fun m => .load m.image) after)
    (hopened : ∀ m ∈ modules, openFile host dir m.name = .ok (m.pe, m.size))
    (hcontained : ∀ m ∈ modules, m.image.Contained host.profile) {address : Nat}
    (houtside : ∀ m ∈ modules, ¬ m.image.Range address) : after.mem address = before.mem address := by
  have hkeeps : Run (fun first (_ : Work) second => second.mem address = first.mem address) before
      (modules.map fun m => .load m.image) after := by
    refine hrun.mono_of_mem ?_
    intro work hwork first second hstep
    obtain ⟨m, hm, rfl⟩ := List.mem_map.mp hwork
    have hwork : Work.OfDirectory host dir (.load m.image) := ⟨m.name, hopened m hm⟩
    exact (Work.isolated hobject hwork (hcontained m hm) hstep).2 address (houtside m hm)
  exact hkeeps.invariant (fun state => state.mem address = before.mem address) rfl
    fun _ _ _ hsame hstep => hstep.trans hsame

/-- Once the directory is loaded, memory holds every image whose parts keep to
    themselves. -/
theorem load_directory_holds (hobject : host.object.Sound) {k_pbase k_vbase : UInt64} {kloader : KernelLoader}
    {before after : Vm}
    (hload : (KernelLoader.load_directory host .new dir k_pbase k_vbase).run before = .ok kloader after)
    (hformed : ∀ m ∈ kloader.modules, m.image.WellFormed host.profile) (hapart : RangesApart kloader.modules) :
    ∀ m ∈ kloader.modules, m.image.Holds host.profile (fun _ => False) after.mem := by
  intro m hm
  have hloads := (load_directory_yields hobject.nonempty dir k_pbase k_vbase before kloader).mp ⟨after, hload⟩
  have hentry := planDirectory_entries hloads.planned m hm
  have htrace := load_directory_trace hobject hload
  have hopened := (htrace.loaded m hm).opened
  have hmeasured : m.image.Measured host.profile := openFile_measured hobject hopened
  obtain ⟨earlier, later, hsplit⟩ := List.append_of_mem hm
  have hrun := htrace.trace
  rw [hsplit, List.map_append, List.map_cons] at hrun
  obtain ⟨start, _, hrest⟩ := hrun.split
  obtain ⟨loaded, hstep, hlater⟩ := hrest.uncons
  -- Loading succeeds in any state, so also in the one that it started in.
  have hyields := load_sections_yields host.profile m.pe m.p_base m.v_base hmeasured.header.1
  obtain ⟨done, hdone⟩ := (hyields start m.entry).mpr ⟨hloads.images m hm, hentry⟩
  obtain rfl : loaded = done := hstep.trans (leftBy_of_ok hdone)
  have hholds := load_sections_holds hmeasured.header.1 (hformed m hm) hdone
  rw [hsplit] at hformed hapart
  have hmembers : ∀ other ∈ later, other ∈ earlier ++ m :: later :=
    fun other hother => List.mem_append_right _ (List.mem_cons_of_mem _ hother)
  have hbehind := (List.pairwise_cons.mp (List.pairwise_append.mp hapart).2.1).1
  have hcontained := (hformed m (List.mem_append_right _ List.mem_cons_self)).toContained
  have hkept := hholds.kept (fun _ => False) hmeasured hcontained fun address haddress _ =>
    run_outside hobject hlater (fun other hother => (htrace.loaded other (hsplit ▸ hmembers other hother)).opened)
      (fun other hother => (hformed other (hmembers other hother)).toContained)
      fun other hother => hbehind other hother address haddress
  simpa only [or_false] using hkept

/-- An address of a resolved slot. -/
def InSlot (resolver : ForwarderResolver) (address : Nat) : Prop :=
  ∃ slot ∈ resolvedSlots resolver, Within slot 8 address

/-- Once the directory is loaded and bound, memory holds every image whose parts
    keep to themselves, apart from the resolved slots. -/
theorem loadAndBind_holds (hobject : host.object.Sound) {k_pbase k_vbase : UInt64} {kloader : KernelLoader}
    {before after : Vm} (hrun : (loadAndBind host dir k_pbase k_vbase).run before = .ok kloader after)
    (hformed : ∀ m ∈ kloader.modules, m.image.WellFormed host.profile) (hapart : RangesApart kloader.modules) :
    ∀ m ∈ kloader.modules,
      m.image.Holds host.profile (InSlot (kloader.resolver host.profile host.cases)) after.mem := by
  intro m hm
  unfold loadAndBind at hrun
  obtain ⟨loader, loaded, hload, hrest⟩ := bind_run_eq_ok_iff.mp hrun
  obtain ⟨_, bound, hbind, hrest⟩ := bind_run_eq_ok_iff.mp hrest
  injection hrest with hloader hafter
  subst hloader hafter
  have hmeasured : m.image.Measured host.profile :=
    openFile_measured hobject ((load_directory_trace hobject hload).loaded m hm).opened
  have hsame : ∀ address, m.image.Range address → ¬ InSlot (loader.resolver host.profile host.cases) address →
      bound.mem address = loaded.mem address := by
    intro address _ houtside
    rw [loader.bind_all_leaves host.profile host.cases loaded bound () hbind]
    apply storeAll_untouched
    intro write hwrite hin
    obtain ⟨hslot, hlength⟩ := mem_slotWrites hwrite
    exact houtside ⟨write.1, hslot, hlength ▸ hin⟩
  have hkept := (load_directory_holds hobject hload hformed hapart m hm).kept _ hmeasured (hformed m hm).toContained
    hsame
  simpa only [false_or] using hkept

/-- A file whose code holds an address of its own. -/
def pointerFile : List UInt8 :=
  peImage 0x180000000 0x1000 (0, 0) (0, 0)
    [⟨[0x2E, 0x74, 0x65, 0x78, 0x74], 0x1000, 0x1000, 12, 408⟩,
      ⟨[0x2E, 0x72, 0x65, 0x6C, 0x6F, 0x63], 0x1000, 0x2000, 12, 420⟩]
    ([0x48, 0xB8] ++ ofUInt64 0x180001000 ++ [0xFF, 0xE0] ++
      (ofUInt32 0x1000 ++ ofUInt32 12 ++ ofUInt16 0xA002 ++ ofUInt16 0))

/-- A directory in which every file is that one. -/
def pointerDirectory : Directory where
  read _ := .ok pointerFile
  read_dir := .ok []

theorem loadAndBind_holds_pointerDirectory : ∃ kloader after,
    (loadAndBind peHost pointerDirectory 0x200000 0xFFFFF80000200000).run ⟨fun _ => 0⟩ = .ok kloader after ∧
      kloader.modules.length = 4 ∧ ∀ m ∈ kloader.modules, m.pe.sections.length = 2 ∧
        m.pe.fixups .release = [0x1002] ∧
          m.image.Holds .release (InSlot (kloader.resolver .release CaseMap.ascii)) after.mem := by
  obtain ⟨kloader, after, hrun, hchecked⟩ := Stateful.of_returns
    (show Stateful.returns (loadAndBind peHost pointerDirectory 0x200000 0xFFFFF80000200000) ⟨fun _ => 0⟩
      (fun kloader => decide (RangesApart kloader.modules ∧ kloader.modules.length = 4 ∧ ∀ m ∈ kloader.modules,
        m.image.WellFormed .release ∧ m.pe.sections.length = 2 ∧ m.pe.fixups .release = [0x1002])) = true by
      decide +kernel)
  obtain ⟨hapart, hcount, hmodules⟩ := of_decide_eq_true hchecked
  have hholds := loadAndBind_holds peCrate_sound hrun (fun m hm => (hmodules m hm).1) hapart
  exact ⟨kloader, after, hrun, hcount, fun m hm => ⟨(hmodules m hm).2.1, (hmodules m hm).2.2, hholds m hm⟩⟩

end Directory

end vwfl.loader
