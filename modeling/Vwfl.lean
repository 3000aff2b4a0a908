import Vwfl.BitField
import Vwfl.ByteStore.Basic
import Vwfl.ByteStore.LittleEndian
import Vwfl.ByteStore.Trace
import Vwfl.ByteStore.Words
import Vwfl.ByteStore.Patch
import Vwfl.ByteStore.Commute
import Vwfl.Linked
import Vwfl.Paging.Walk
import Vwfl.Paging.Space
import Vwfl.Paging.Extend
import Vwfl.Transition.Run
import Vwfl.Transition.Refine
import Vwfl.X86.Interrupt
import Vwfl.X86.Tables
import Vwfl.Rust.Fault
import Vwfl.Rust.Str
import Vwfl.Rust.Utf8
import Vwfl.Rust.Arith
import Vwfl.Rust.Yields
import Vwfl.Rust.ReprC
import Vwfl.Rust.Slice
import Vwfl.Rust.Utf16
import Vwfl.Rust.Moves
import Vwfl.Rust.Utf8Text
import Vwfl.Vm.Memory
import Vwfl.Vm.Access
import Vwfl.Vm.Effects
import Vwfl.Vm.Slots
import Vwfl.Vm.Frame
import Vwfl.Gdb.Target
import Vwfl.Gdb.Walk
import Vwfl.Gdb.Bounds
import Vwfl.Gdb.Mapping
import Vwfl.Gdb.Unmapped
import Vwfl.Gdb.Readback
import Vwfl.Gdb.Session
import Vwfl.Pe.File
import Vwfl.Pe.Header
import Vwfl.Pe.Crate
import Vwfl.Pe.Exports
import Vwfl.Pe.Imports
import Vwfl.Pe.Relocation
import Vwfl.Pe.Blocks
import Vwfl.Pe.Fixups
import Vwfl.Pe.Table
import Vwfl.Pe.Layout
import Vwfl.Pe.ImportLayout
import Vwfl.Pe.ExportLayout
import Vwfl.Pe.Locate
import Vwfl.Pe.Survival
import Vwfl.Pe.Decoding
import Vwfl.Pe.BlockWalk
import Vwfl.Pe.Accepted
import Vwfl.Pe.ImportInverse
import Vwfl.Pe.ExportExact
import Vwfl.Pe.Formats
import Vwfl.Pe.Inside
import Vwfl.Pe.Identity
import Vwfl.Forwarder.Resolve
import Vwfl.Forwarder.Chain
import Vwfl.Forwarder.Names
import Vwfl.Forwarder.Ordinals
import Vwfl.Loader.Sections
import Vwfl.Loader.Directory
import Vwfl.Loader.Image
import Vwfl.Loader.Plan
import Vwfl.Loader.Bind
import Vwfl.Loader.Layout
import Vwfl.Loader.Slots
import Vwfl.Loader.Isolation
import Vwfl.Loader.Order
import Vwfl.Loader.Relocated
import Vwfl.Loader.Drivers
import Vwfl.Loader.Success
import Vwfl.Loader.Views
import Vwfl.Loaderblock.Records
import Vwfl.Loaderblock.Setup
import Vwfl.Loaderblock.Writes
import Vwfl.Acpi.Setup
import Vwfl.Acpi.Writes
import Vwfl.Acpi.Tables
import Vwfl.Acpi.Chain
import Vwfl.Debug.Idt
import Vwfl.Debug.Translate
import Vwfl.Debug.Stub
import Vwfl.Debug.Resume
import Vwfl.Main.Layout
import Vwfl.Main.Paging.Setup
import Vwfl.Main.Paging.Tables
import Vwfl.Main.Paging.Windows
import Vwfl.Main.Paging.Coverage
import Vwfl.Main.Paging.SelfMap
import Vwfl.Main.Boot
import Vwfl.Main.Placement
import Vwfl.Main.Writes
import Vwfl.Main.Links
import Vwfl.Main.Mapping
import Vwfl.Main.Files
import Vwfl.Main.Trace
import Vwfl.Main.Nodes
import Vwfl.Main.ModuleList
import Vwfl.Main.Survival
import Vwfl.Main.MemoryMap
import Vwfl.Main.Extensions
import Vwfl.Main.VirtualPlacement
import Vwfl.Main.Tiling
import Vwfl.Main.Paging.Devices
import Vwfl.Main.Paging.Space
import Vwfl.Main.Paging.Kept
import Vwfl.Main.Handoff
import Vwfl.Main.Pointers
import Vwfl.Main.Reached
import Vwfl.Main.PointerFields
import Vwfl.Main.Published
import Vwfl.Main.Success
import Vwfl.Main.Linking
import Vwfl.Cpu.Bridge
import Vwfl.Cpu.Devices
import Vwfl.Cpu.Exits
import Vwfl.Cpu.Server
import Vwfl.Cpu.Handlers
import Vwfl.Cpu.Serial
import Vwfl.Cpu.Stream
import Vwfl.Cpu.EventLoop
import Vwfl.Cpu.Clock
import Vwfl.Cpu.Pacing
import Vwfl.Cpu.LongMode
import Vwfl.Cpu.Traps
import Vwfl.Cpu.Start
import Vwfl.Cpu.Timers
import Vwfl.Cpu.Output
import Vwfl.Cpu.Registers
import Vwfl.Cpu.Widths
import Vwfl.Loader.Contents
