import Vwfl.Gdb.Mapping

open Rust ByteStore Paging
open vwfl.vm

namespace vwfl.gdb

/-- Guest bytes of the table entries that the walk of an address reads. An entry
    that ends behind the mapping has none. -/
def VwflTarget.EntryByte (self : VwflTarget) (vaddr : UInt64) (byte : Nat) : Prop :=
  ∃ sregs ∈ self.sregs, ∃ slot ∈ visited (entryAt self.vm.mem) 3 (frame sregs.cr3.toNat) vaddr.toNat,
    slot + 8 ≤ MEM_SIZE.toNat ∧ Within slot 8 byte

variable {profile : Profile} {self after : VwflTarget} {start_addr paddr : UInt64} {data buffer : List UInt8}

theorem entryAt_congr {before after : Nat → UInt8} {slot : Nat}
    (hsame : slot + 8 ≤ MEM_SIZE.toNat → ∀ byte, Within slot 8 byte → after byte = before byte) :
    entryAt after slot = entryAt before slot := by
  unfold entryAt
  split
  · rename_i hbound
    rw [load_congr (hsame hbound)]
  · rfl

/-- Memory that keeps the entries on its way keeps a translation. -/
theorem VwflTarget.translation_congr (hsregs : after.sregs = self.sregs)
    (hsame : ∀ byte, self.EntryByte start_addr byte → after.vm.mem byte = self.vm.mem byte) :
    after.translation start_addr = self.translation start_addr := by
  unfold VwflTarget.translation
  rw [hsregs]
  cases hcr3 : self.sregs with
  | none => simp only [Option.bind_none]
  | some sregs =>
    simp only [Option.bind_some]
    unfold translate
    have hentries : ∀ slot ∈ visited (entryAt self.vm.mem) 3 (frame sregs.cr3.toNat) start_addr.toNat,
        entryAt after.vm.mem slot = entryAt self.vm.mem slot := by
      intro slot hslot
      refine entryAt_congr fun hbound byte hin => ?_
      exact hsame byte ⟨sregs, hcr3, slot, hslot, hbound, hin⟩
    exact walk_congr hentries

theorem read_addrs_of_le (hpaddr : self.virt_to_phys profile start_addr = .ok paddr)
    (hbound : paddr.toNat + buffer.length ≤ MEM_SIZE.toNat) :
    self.read_addrs profile start_addr buffer = .ok (buffer.length, load self.vm.mem paddr.toNat buffer.length) := by
  unfold VwflTarget.read_addrs
  rw [hpaddr, ok_bind, Vm.read_memory_of_le profile self.vm hbound]
  rfl

/-- What the debugger wrote it reads back, as long as the write did not hit the
    table entries that translate its address. -/
theorem read_addrs_of_write_addrs (hlength : buffer.length = data.length)
    (hpaddr : self.virt_to_phys profile start_addr = .ok paddr)
    (hentries : ∀ byte, self.EntryByte start_addr byte → ¬ Within paddr.toNat data.length byte)
    (hwrite : (VwflTarget.write_addrs profile start_addr data).run self = .ok () after) :
    after.read_addrs profile start_addr buffer = .ok (data.length, data) ∧
      ∀ address, ¬ Within paddr.toNat data.length address → after.vm.mem address = self.vm.mem address := by
  obtain ⟨hbound, rfl⟩ := write_addrs_eq_ok hpaddr hwrite
  have hframe : ∀ address, ¬ Within paddr.toNat data.length address →
      store self.vm.mem paddr.toNat data address = self.vm.mem address :=
    fun address houtside => store_outside self.vm.mem paddr.toNat data houtside
  refine ⟨?_, hframe⟩
  -- The second walk runs over the memory that was written.
  have htranslation : VwflTarget.translation
      { self with vm := { self.vm with mem := store self.vm.mem paddr.toNat data } } start_addr =
      self.translation start_addr :=
    VwflTarget.translation_congr rfl fun byte hbyte => hframe byte (hentries byte hbyte)
  rw [VwflTarget.virt_to_phys_eq, ← htranslation, ← VwflTarget.virt_to_phys_eq] at hpaddr
  rw [read_addrs_of_le hpaddr (hlength ▸ hbound), hlength, load_store_same]

/-- A write through one large page that leaves the tables alone. -/
theorem read_addrs_of_write_addrs_largePage : ∃ after,
    (VwflTarget.write_addrs .release 0x5000 [1, 2, 3]).run swappedPages = .ok () after ∧
      after.read_addrs .release 0x5000 [0, 0, 0] = .ok (3, [1, 2, 3]) ∧
        ∀ address, ¬ Within 0x405000 3 address → after.vm.mem address = swappedPages.vm.mem address := by
  have hpaddr : swappedPages.virt_to_phys .release 0x5000 = .ok 0x405000 := by
    rw [VwflTarget.virt_to_phys_eq]
    have htranslation : swappedPages.translation 0x5000 = some 0x405000 := by decide +kernel
    rw [htranslation]
    rfl
  have hwrite : ∃ after, (VwflTarget.write_addrs .release 0x5000 [1, 2, 3]).run swappedPages = .ok () after :=
    ⟨_, write_addrs_of_le hpaddr (by decide)⟩
  obtain ⟨after, hwrite⟩ := hwrite
  have hlength : ([1, 2, 3] : List UInt8).length = 3 := rfl
  have hword : (0x405000 : UInt64).toNat = 0x405000 := rfl
  have hentries : ∀ byte, swappedPages.EntryByte 0x5000 byte →
      ¬ Within (0x405000 : UInt64).toNat ([1, 2, 3] : List UInt8).length byte := by
    rw [hword, hlength]
    rintro byte ⟨sregs, hsregs, slot, hslot, _, hbyte⟩ hin
    cases hsregs
    have hvisited : visited (entryAt swappedPages.vm.mem) 3 (frame (0x1000 : UInt64).toNat) (0x5000 : UInt64).toNat =
        [0x1000, 0x2000, 0x3000] := by decide +kernel
    rw [hvisited] at hslot
    simp only [List.mem_cons, List.not_mem_nil, or_false] at hslot
    unfold Within at hbyte hin
    omega
  have hbuffer : ([0, 0, 0] : List UInt8).length = ([1, 2, 3] : List UInt8).length := rfl
  obtain ⟨hread, hframe⟩ := read_addrs_of_write_addrs hbuffer hpaddr hentries hwrite
  rw [hword, hlength] at hframe
  exact ⟨after, hwrite, hread, hframe⟩

end vwfl.gdb
