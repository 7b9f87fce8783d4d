import Courier.Certificate.X509
import Courier.Text.Utf8

/-!
# Writing certificates

A certificate with given extensions. What does not matter here is filled with placeholders: names,
times, the key and the signature, so nobody can use it for a connection.
-/

namespace Courier.Certificate

open Der

/-- An algorithm without parameters. -/
def algorithmBytes (oid : List Nat) : List UInt8 :=
  nest Der.sequence [objectIdBytes oid, Element.encode ⟨Der.empty, []⟩]

/-- A name with one attribute, the common name. -/
def nameBytes (name : String) : List UInt8 :=
  nest Der.sequence [nest Der.set [nest Der.sequence
    [objectIdBytes [2, 5, 4, 3], Element.encode ⟨utf8String, Utf8.encode name⟩]]]

/-- A span of twenty years. -/
def validityBytes : List UInt8 :=
  nest Der.sequence [Element.encode ⟨utcTime, Utf8.encode "200101000000Z"⟩,
    Element.encode ⟨utcTime, Utf8.encode "400101000000Z"⟩]

/-- A string without bits. -/
def noBits : List UInt8 := Element.encode ⟨bitString, [0]⟩

/-- The bytes of an extension. -/
def extensionBytes (e : Extension) : List UInt8 :=
  nest Der.sequence [objectIdBytes e.oid, Element.encode ⟨octetString, e.value⟩]

/-- The signed part of a certificate; without extensions their list is left out. -/
def signedBytes (c : Certificate) : List UInt8 :=
  nest Der.sequence ([nest (field 0) [Element.encode ⟨integer, [2]⟩],
    Element.encode ⟨integer, [5]⟩, algorithmBytes [1, 2, 840, 113549, 1, 1, 11], nameBytes "ca",
    validityBytes, nameBytes "push",
    nest Der.sequence [algorithmBytes [1, 2, 840, 113549, 1, 1, 1], noBits]] ++
    if c.extensions = [] then []
    else [nest (field extensionsField) [nest Der.sequence (c.extensions.map extensionBytes)]])

/-- The bytes of a certificate. -/
def encode (c : Certificate) : List UInt8 :=
  nest Der.sequence [signedBytes c, algorithmBytes [1, 2, 840, 113549, 1, 1, 11], noBits]

end Courier.Certificate
