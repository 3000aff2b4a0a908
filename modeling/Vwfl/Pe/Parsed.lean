import Vwfl.Pe.File

open Rust

namespace vwfl.pe

/-- What the object crate promises about its sections and the files it
    accepts: an empty file is no image, and the data of a section is not longer
    than its virtual size. -/
structure ObjectCrate.Sound (object : ObjectCrate) : Prop where
  nonempty : object [] = none
  data_le : ∀ bytes file, object bytes = some file → ∀ found ∈ file.sections, ∀ data, found.data = some data →
    data.length ≤ found.size.toNat

/-- A section of the object crate and its copy in the parsed file. -/
structure Extracted (source : ObjectSection) (found : Section) : Prop where
  name : source.name = some found.name
  address : source.address = found.virtual_address
  size : source.size = found.virtual_size
  data : source.data = some found.raw_data
  positive : 0 < found.virtual_size.toNat

/-- Sections that the parser keeps. -/
def ObjectSection.kept (source : ObjectSection) : Bool := source.name.isSome && 0 < source.size

/-- The kept sections are copied in file order. -/
theorem extract_sections_forall₂ {sources : List ObjectSection} {sections : List Section}
    (h : extract_sections sources = .ok sections) :
    List.Forall₂ Extracted (sources.filter ObjectSection.kept) sections := by
  induction sources generalizing sections with
  | nil =>
    cases h
    exact .nil
  | cons source sources ih =>
    cases hname : source.name with
    | none =>
      simp only [extract_sections, hname] at h
      rw [List.filter_cons_of_neg (by simp [ObjectSection.kept, hname])]
      exact ih h
    | some name =>
      simp only [extract_sections, hname] at h
      split at h
      · rename_i hpositive
        rw [List.filter_cons_of_pos (by simpa [ObjectSection.kept, hname] using hpositive)]
        cases hdata : source.data with
        | none =>
          simp only [hdata] at h
          cases h
        | some raw_data =>
          simp only [hdata] at h
          obtain ⟨kept, hkept, h⟩ := bind_eq_ok_iff.mp h
          cases h
          exact .cons ⟨hname, rfl, rfl, hdata, UInt64.lt_iff_toNat_lt.mp hpositive⟩ (ih hkept)
      · rename_i hempty
        rw [List.filter_cons_of_neg (by simpa [ObjectSection.kept, hname] using hempty)]
        exact ih h

theorem extract_sections_eq_ok {sources : List ObjectSection} {sections : List Section}
    (h : extract_sections sources = .ok sections) :
    ∀ found ∈ sections, ∃ source ∈ sources, Extracted source found := by
  intro found hfound
  obtain ⟨index, hindex, rfl⟩ := List.getElem_of_mem hfound
  have hcopied := extract_sections_forall₂ h
  have hsource : index < (sources.filter ObjectSection.kept).length := hcopied.length_eq ▸ hindex
  exact ⟨_, (List.mem_filter.mp (List.getElem_mem hsource)).1, hcopied.get hsource hindex⟩

/-- A parsed file keeps the bytes, their first page as the header, and the
    sections and the image base of the object crate. -/
structure ParsedFrom (object : ObjectCrate) (bytes : List UInt8) (pe : PeFile) (file : ObjectFile) : Prop where
  accepted : object bytes = some file
  raw_bytes : pe.raw_bytes = bytes
  header_data : pe.header_data = bytes.take 4096
  sections : extract_sections file.sections = .ok pe.sections
  image_base : file.format = .Pe64 pe.image_base ∨
    ∃ image_base : UInt32, file.format = .Pe32 image_base ∧ pe.image_base = image_base.toUInt64

theorem parse_eq_ok {object : ObjectCrate} {bytes : List UInt8} {pe : PeFile} (h : parse object bytes = .ok pe) :
    ∃ file, ParsedFrom object bytes pe file := by
  obtain ⟨parsed, hfrom, h⟩ := bind_eq_ok_iff.mp h
  obtain ⟨header_data, hheader, h⟩ := bind_eq_ok_iff.mp h
  cases h
  have hsize : (if !parsed.sections.isEmpty then min 4096 bytes.length else min bytes.length 4096) =
      min 4096 bytes.length := by
    rw [Nat.min_comm bytes.length, ite_self]
  rw [hsize, slice_of_le ⟨Nat.zero_le _, Nat.min_le_right _ _⟩] at hheader
  obtain ⟨file, haccepted, hfrom⟩ := bind_eq_ok_iff.mp hfrom
  have hobject : object bytes = some file := by
    unfold ok_or at haccepted
    cases hfile : object bytes with
    | none =>
      rw [hfile] at haccepted
      cases haccepted
    | some found =>
      rw [hfile] at haccepted
      cases haccepted
      rfl
  have hpage : header_data = bytes.take 4096 := by
    cases hheader
    simp [List.take_eq_take_min]
  refine ⟨file, ?_⟩
  cases hformat : file.format with
  | Pe32 image_base =>
    simp only [hformat] at hfrom
    obtain ⟨sections, hsections, hfrom⟩ := bind_eq_ok_iff.mp hfrom
    cases hfrom
    exact ⟨hobject, rfl, hpage, hsections, .inr ⟨image_base, hformat, rfl⟩⟩
  | Pe64 image_base =>
    simp only [hformat] at hfrom
    obtain ⟨sections, hsections, hfrom⟩ := bind_eq_ok_iff.mp hfrom
    cases hfrom
    exact ⟨hobject, rfl, hpage, hsections, .inl hformat⟩
  | Other =>
    simp only [hformat] at hfrom
    cases hfrom

end vwfl.pe
