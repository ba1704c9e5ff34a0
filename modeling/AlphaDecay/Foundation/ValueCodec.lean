import AlphaDecay.Foundation.JsonCodec

/-!
# Codecs of decimals and constants

Decimals are written as their texts, which keep the exponent, and a record may have fields that
say the same in each of its documents.
-/

namespace Foundation.Json

namespace Codec

/-- Decimals, as their texts. -/
def decimal : Codec Decimal :=
  named (fun d => String.ofList d.toText) fun text => Decimal.parse text.toList

theorem decimal_lawful : decimal.Lawful fun _ => True :=
  named_lawful fun d _ => by rw [String.toList_ofList, Decimal.parse_toText]

/-- Truth values. -/
def boolean : Codec Bool :=
  ⟨Json.bool, asBool⟩

theorem boolean_lawful : boolean.Lawful fun _ => True where
  keyed value := .bool value
  orderFree := asBool_orderFree
  reads _ _ := rfl

end Codec

def Fields.literal (name expected : String) : Fields Unit :=
  .one name (Codec.literal expected)

theorem Fields.literal_lawful (name expected : String) :
    (Fields.literal name expected).Lawful fun _ => True :=
  Fields.one_lawful (Codec.literal_lawful expected) name

end Foundation.Json
