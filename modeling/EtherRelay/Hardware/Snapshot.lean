import EtherRelay.Hardware.Registers
/-!
# Snapshots of a counter block

A snapshot is taken by latching a block and then reading its registers one after another. The
sequence of register accesses is `Snapshot.reads`, so that it can be studied step by step.
-/

namespace EtherRelay.Hardware

/-- The values read from one counter block. -/
structure Snapshot where
  tx : Totals UInt32
  rx : Totals UInt32
  /-- The breakdown of received frames, empty where it was not asked for. -/
  extended : List (String × UInt32)
  deriving Repr, DecidableEq

namespace Snapshot

/-- The names of the transmit totals. -/
def txNames : Totals String :=
  ⟨"tx_total_pkts", "tx_total_good_pkts", "tx_total_bytes", "tx_total_good_bytes"⟩

/-- The names of the receive totals. -/
def rxNames : Totals String :=
  ⟨"rx_total_pkts", "rx_total_good_pkts", "rx_total_bytes", "rx_total_good_bytes"⟩

/-- Every counter with its name, the totals first. -/
def fields (s : Snapshot) : List (String × UInt32) :=
  txNames.toList.zip s.tx.toList ++ rxNames.toList.zip s.rx.toList ++ s.extended

/-- The registers that a snapshot of a block reads, in order. -/
def reads (layout : Layout) (extended : Bool) : List UInt32 :=
  layout.tx.toList ++ layout.rx.toList
    ++ if extended then layout.extended.map Prod.snd else []

/-- The snapshot that readable registers show. -/
def ofRegisters (r : Registers) (layout : Layout) (extended : Bool) : Snapshot where
  tx := layout.tx.map r.read
  rx := layout.rx.map r.read
  extended := if extended then layout.extended.map fun (name, offset) => (name, r.read offset)
    else []

/-- Latch a block and read its counters. The latch cannot fail, since the block of a layout is not
the topmost one (`Registers.write_layout_fst`). -/
def take (r : Registers) (layout : Layout) (extended : Bool) : Snapshot × Registers :=
  let r := (r.write layout.latch latchValue).2
  (ofRegisters r layout extended, r)

end Snapshot

end EtherRelay.Hardware
