import SharedPages.Session.State

/-!
# Masks

Random bits that nobody can know must not show in what a session says. A candidate
made of such bits is masked: after the stem and a serial number whose bits are hidden
there are question marks for the sixteen digits.

* `hiddenSerials`: the serial numbers whose bits nobody can know;
* `Mask.apply`: a text with the digits after hidden beginnings masked.
-/

namespace SharedPages.Session

/-! ## Hidden serial numbers -/

/-- The serial numbers whose random bits failed to come, or are hidden anyway. Each draw uses up a
serial number, and the next one is `serial`. -/
def hiddenSerials (hidesEntropy : Bool) : (serial : UInt32) → List Event → List Nat
  | _, [] => []
  | serial, event :: events =>
    match event with
    | ⟨.draw, bits⟩ =>
      let later := hiddenSerials hidesEntropy (serial + 1) events
      if hidesEntropy || bits.isNone then serial.toNat :: later else later
    | _ => hiddenSerials hidesEntropy serial events

/-- The hidden serial numbers among the events that follow a state. -/
def hiddenAfter (before : State) (events : List Event) : List Nat :=
  match before.context.provider with
  | .native => []
  | .emulated e => hiddenSerials before.machine.hidesEntropy e.serial events

/-! ## Masking -/

/-- The forms in which a stem is written, and the serial numbers that are hidden after it. -/
structure Mask where
  stems : List (List Char)
  serials : List Nat

namespace Mask

/-- A stem is written as it is, or as it is inside quotes. -/
def ofStem (stem : String) (serials : List Nat) : Mask :=
  ⟨[stem.toList, stem.toList.flatMap Text.quotedChar].eraseDups, serials⟩

/-- The mask for what a provider proposes. -/
def ofProvider (provider : File.Provider) (serials : List Nat) : Mask :=
  match provider with
  | .native => ⟨[], []⟩
  | .emulated e => ofStem e.config.stem serials

/-- The text begins with the digits of a candidate with a hidden serial number. -/
def hidesDigits (m : Mask) (text : List Char) : Bool :=
  let digits := text.take File.generatedLength
  digits.all Text.isHexDigit && digits.length = File.generatedLength
    && m.serials.contains (Text.hexNumber (digits.take 8))

/-- The text begins with a hidden candidate: how many characters come before its mixed hash. -/
def hiddenStart? (m : Mask) (text : List Char) : Option Nat :=
  m.stems.findSome? fun stem =>
    if stem.isPrefixOf text && m.hidesDigits (text.drop stem.length) then some (stem.length + 8)
    else none

/-- The text with the mixed hashes of hidden candidates masked. The next `kept` characters stay as
they are, and the `masked` ones after them are masked. -/
def scan (m : Mask) : (kept masked : Nat) → List Char → List Char
  | _, _, [] => []
  | kept + 1, masked, c :: cs => c :: m.scan kept masked cs
  | 0, masked + 1, _ :: cs => '?' :: m.scan 0 masked cs
  | 0, 0, c :: cs =>
    match m.hiddenStart? (c :: cs) with
    | some kept => c :: m.scan (kept - 1) 16 cs
    | none => c :: m.scan 0 0 cs

/-- The text with the mixed hashes of hidden candidates masked. -/
def apply (m : Mask) (text : String) : String :=
  if m.serials = [] then text else String.ofList (m.scan 0 0 text.toList)

end Mask

end SharedPages.Session
