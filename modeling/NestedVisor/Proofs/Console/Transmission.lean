import Mathlib.Data.List.Basic
import NestedVisor.Console.Uart

/-!
# Bytes on the line

What is sent of a text, and how a port is polled while it is sent.
-/

namespace NestedVisor.Console

/-! ## Bytes of a text -/

theorem toList_loop (bytes : ByteArray) (i : Nat) (before : List UInt8) :
    ByteArray.toList.loop bytes i before = before.reverse ++ bytes.data.toList.drop i := by
  fun_induction ByteArray.toList.loop bytes i before with
  | case1 i before more ih =>
      have inside : i < bytes.data.toList.length := by simpa using more
      have byte : bytes.get! i = bytes.data.toList[i] := getElem!_pos bytes.data i more
      rw [ih, List.drop_eq_getElem_cons inside, byte]
      simp
  | case2 i before past =>
      have outside : bytes.data.toList.length ≤ i := by simpa using past
      rw [List.drop_of_length_le outside, List.append_nil]

theorem toList_append (bytes more : ByteArray) :
    (bytes ++ more).toList = bytes.toList ++ more.toList := by
  simp [ByteArray.toList, toList_loop]

/-- The bytes of a text, with a carriage return before each line feed. -/
def textBytes (text : String) : List (BitVec 8) :=
  text.toUTF8.toList.flatMap fun byte =>
    if byte = 0x0A then [0x0D, 0x0A] else [byte.toBitVec]

theorem textBytes_empty : textBytes "" = [] := by
  simp [textBytes, ByteArray.toList, toList_loop]

theorem textBytes_append (text more : String) :
    textBytes (text ++ more) = textBytes text ++ textBytes more := by
  simp [textBytes, toList_append]

theorem lineBytes_eq (text : String) : lineBytes text = textBytes text := by
  rw [lineBytes, textBytes]
  induction text.toUTF8.toList with
  | nil => rfl
  | cons byte rest ih =>
      have same : BitVec.ofNat 8 byte.toNat = byte.toBitVec := by simp [← UInt8.toNat_toBitVec]
      rw [List.map_cons, List.flatMap_cons, ← ih, expandLineFeeds, same]
      by_cases feed : byte = 0x0A
      · subst feed
        rfl
      · have other : byte.toBitVec ≠ lineFeed := fun is => feed (UInt8.toBitVec_inj.1 is)
        rw [if_neg feed, if_neg other]
        rfl

/-! ## Transmissions -/

variable {port : SerialPort} {bytes more : List (BitVec 8)} {accesses accesses' : List Access}

/--
Each byte is written directly after a read of the line status that showed the transmitter empty;
before that there are only reads that showed it busy.
-/
inductive Transmits (port : SerialPort) : List (BitVec 8) → List Access → Prop
  | nothing : Transmits port [] []
  | byte {waits : List (BitVec 8)} {ready byte : BitVec 8} {bytes : List (BitVec 8)}
      {accesses : List Access} (busy : ∀ status ∈ waits, transmitterEmpty status = false)
      (empty : transmitterEmpty ready = true) (rest : Transmits port bytes accesses) :
      Transmits port (byte :: bytes)
        (waits.map (.read (port.base + lineStatusOffset)) ++
          [.read (port.base + lineStatusOffset) ready, .write (port.base + dataOffset) byte] ++
          accesses)

theorem Transmits.append (first : Transmits port bytes accesses)
    (second : Transmits port more accesses') :
    Transmits port (bytes ++ more) (accesses ++ accesses') := by
  induction first with
  | nothing => exact second
  | byte busy empty rest ih =>
      rw [List.append_assoc]
      exact .byte busy empty ih

def Access.address : Access → BitVec 16
  | .read address _ | .write address _ => address

/-- The access is to one of the six registers that are used of the port. -/
def SerialPort.Owns (port : SerialPort) (access : Access) : Prop :=
  ∃ offset < 6, access.address = port.base + BitVec.ofNat 16 offset

theorem Transmits.owns (transmits : Transmits port bytes accesses) :
    ∀ access ∈ accesses, port.Owns access := by
  induction transmits with
  | nothing => nofun
  | byte busy empty rest ih =>
      intro access listed
      rcases List.mem_append.1 listed with sent | later
      · rcases List.mem_append.1 sent with waited | last
        · obtain ⟨status, -, rfl⟩ := List.mem_map.1 waited
          exact ⟨5, by decide, rfl⟩
        · rcases List.mem_pair.1 last with rfl | rfl
          · exact ⟨5, by decide, rfl⟩
          · exact ⟨0, by decide, rfl⟩
      · exact ih access later

/-- Waiting ends with the first read that shows the transmitter empty, which comes in time. -/
theorem exists_polls {status : LineStatus} (address : BitVec 16) {fuel n k : Nat} (le : k ≤ fuel)
    (empty : transmitterEmpty (status.answer (n + k)) = true) :
    ∃ (waits : List (BitVec 8)) (ready : BitVec 8),
      (∀ status ∈ waits, transmitterEmpty status = false) ∧ transmitterEmpty ready = true ∧
      Wire.polls status address fuel n = waits.map (.read address) ++ [.read address ready] := by
  induction fuel generalizing n k with
  | zero =>
      obtain rfl : k = 0 := Nat.le_zero.1 le
      exact ⟨[], _, nofun, empty, rfl⟩
  | succ fuel ih =>
      cases now : transmitterEmpty (status.answer n) with
      | true => exact ⟨[], _, nofun, now, by simp [Wire.polls, now]⟩
      | false =>
          cases k with
          | zero => exact absurd (now.symm.trans empty) nofun
          | succ k =>
              rw [Nat.add_comm k 1, ← Nat.add_assoc] at empty
              obtain ⟨waits, ready, busy, empty', polls⟩ := ih (Nat.le_of_succ_le_succ le) empty
              refine ⟨status.answer n :: waits, ready, ?_, empty', ?_⟩
              · rintro s (_ | ⟨_, later⟩)
                · exact now
                · exact busy s later
              · simp [Wire.polls, now, polls]

theorem transmits_sendByte (w : Wire) (port : SerialPort) (byte : BitVec 8) :
    ∃ accesses, (w.sendByte port byte).accesses.toList = w.accesses.toList ++ accesses ∧
      Transmits port [byte] accesses := by
  obtain ⟨k, le, empty⟩ := w.status.becomes_empty w.reads
  obtain ⟨waits, ready, busy, empty', polls⟩ :=
    exists_polls (port.base + lineStatusOffset) le empty
  refine ⟨_, ?_, .byte busy empty' .nothing⟩
  simp [Wire.sendByte, Wire.awaitEmpty, Wire.write, polls]

theorem transmits_sendBytes (w : Wire) (port : SerialPort) (bytes : List (BitVec 8)) :
    ∃ accesses, (w.sendBytes port bytes).accesses.toList = w.accesses.toList ++ accesses ∧
      Transmits port bytes accesses := by
  induction bytes generalizing w with
  | nil => exact ⟨[], (List.append_nil _).symm, .nothing⟩
  | cons byte rest ih =>
      obtain ⟨accesses, sent, transmits⟩ := transmits_sendByte w port byte
      obtain ⟨accesses', sent', transmits'⟩ := ih (w.sendByte port byte)
      refine ⟨accesses ++ accesses', ?_, transmits.append transmits'⟩
      rw [← List.append_assoc, ← sent]
      exact sent'

theorem sendBytes_append (w : Wire) (port : SerialPort) (bytes more : List (BitVec 8)) :
    w.sendBytes port (bytes ++ more) = (w.sendBytes port bytes).sendBytes port more :=
  List.foldl_append

/-- The bytes of a text go over the line alike however it is cut into pieces. -/
theorem sendBytes_pieces (w : Wire) (port : SerialPort) (pieces : List String) :
    pieces.foldl (fun w piece => w.sendBytes port (lineBytes piece)) w =
      w.sendBytes port (textBytes (String.join pieces)) := by
  induction pieces generalizing w with
  | nil =>
      change w = w.sendBytes port (textBytes "")
      rw [textBytes_empty]
      rfl
  | cons piece rest ih =>
      rw [List.foldl_cons, ih, lineBytes_eq, String.join_cons, textBytes_append, sendBytes_append]

end NestedVisor.Console
