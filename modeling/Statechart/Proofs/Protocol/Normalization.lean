import Statechart.Proofs.Protocol.RoundTrip
import Statechart.Proofs.Record.Reading

/-!
Reading a record normalizes it. A front-end may spell a record in many ways; what is
read of it is written in one of them, and reading that gives the same again.
-/

namespace Statechart

open Json

namespace Format

/-- The formats of records, of their parts and of the responses with a record. -/
inductive CarriesRecords : Format → Prop
  | location : CarriesRecords .location
  | attributeValue : CarriesRecords .attributeValue
  | child : CarriesRecords .child
  | record : CarriesRecords .record
  | parseResponse : CarriesRecords .parseResponse
  | getRuntimeStateResponse : CarriesRecords .getRuntimeStateResponse

/-- What is read in such a format is in order and needs no more brackets than were there
when it was read. -/
theorem CarriesRecords.fits_of_yields {format : Format} (carries : format.CarriesRecords)
    {room : Nat} {value : format.Value} (yields : format.codec.Yields room value) :
    format.Ordered value ∧ format.codec.Fits room value := by
  cases carries with
  | location => exact ⟨trivial, Location.fits_of_yields yields⟩
  | attributeValue => exact ⟨trivial, Attribute.fits_of_yields yields⟩
  | child => exact Child.fits_of_yields (fun _ _ => Record.fits_of_yields) yields
  | record => exact Record.fits_of_yields yields
  | parseResponse =>
      rcases Codec.yields_ofField (fun _ _ => rfl) yields with ⟨less, rfl, yieldsRoot⟩
      rcases Record.fits_of_yields yieldsRoot with ⟨ordered, fits⟩
      exact ⟨ordered, Codec.fits_ofField fits⟩
  | getRuntimeStateResponse =>
      rcases Codec.yields_ofField (fun _ _ => rfl) yields with ⟨less, rfl, yieldsRoot⟩
      rcases Record.fits_of_yields yieldsRoot with ⟨ordered, fits⟩
      exact ⟨ordered, Codec.fits_ofField fits⟩

/-- Every text that is read in such a format, in whichever form, is read as a value whose
own text is read as the same value. Neither attributes nor children, at the top or
inside a record, can be read as two of their kinds, so the order in which the kinds are
tried makes no difference. -/
theorem reading_normalizes :
    (∀ format : Format, format.CarriesRecords → ∀ text value,
      format.codec.parse text = .ok value →
        format.codec.parse (format.codec.render value) = .ok value) ∧
    Attribute.codec.Untagged Attribute.attempts ∧
    (Child.codec Record.codec).Untagged (Child.attempts Record.codec) ∧
    ∀ levels, (Child.codec ⟨Record.encode, Record.decodeWithin levels⟩).Untagged
      (Child.attempts ⟨Record.encode, Record.decodeWithin levels⟩) := by
  refine ⟨?_, Attribute.untagged_codec, Record.untagged_child (· + 1), fun levels =>
    Record.untagged_child fun _ => levels⟩
  intro format carries text value parsed
  rcases carries.fits_of_yields (Codec.yields_of_parse parsed) with ⟨ordered, fits⟩
  exact (format.readsBack value ordered 123).parse_of_fits fits

/-- A response whose record is a list of its fields, as is the single record inside it; a
key comes twice and another one is unknown. -/
def listedResponse : String :=
  "\x7b\"x\":[],\"astRoot\":[\"r\",\"t\",\x7b\x7d," ++
    "\x7b\"all\":[\"\",\"\",\x7b\x7d,\x7b\x7d,\x7b\x7d]\x7d," ++
    "\x7b\"to\":\"a\",\"to\":\"b\"\x7d,[1,2,3,4]]\x7d"

theorem reading_normalizes_listedResponse :
    ∃ value, ParseResponse.codec.parse listedResponse = .ok value ∧
      ParseResponse.codec.render value ≠ listedResponse ∧
      ParseResponse.codec.parse (ParseResponse.codec.render value) = .ok value := by
  have spelledAnew : (ParseResponse.codec.parse listedResponse).toOption.map
      (fun value => ParseResponse.codec.render value != listedResponse) = some true := by
    decide +kernel
  cases parsed : ParseResponse.codec.parse listedResponse with
  | error fault =>
      rw [parsed] at spelledAnew
      cases spelledAnew
  | ok value =>
      rw [parsed] at spelledAnew
      exact ⟨value, rfl, bne_iff_ne.mp (Option.some.inj spelledAnew),
        reading_normalizes.1 .parseResponse .parseResponse listedResponse value parsed⟩

end Format

end Statechart
