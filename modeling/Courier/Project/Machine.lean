import Courier.Certificate.Pem
import Courier.Error
import Courier.Project.Address

/-!
# Credential files

What a machine has to offer for the projects it serves: files, judgement on keys, the addresses of
hosts, and processors. Credential files have a limited size, which is asked for before anything is
read.
-/

namespace Courier

/-- A file as it is found: its size, and its content once it is read. -/
structure StoredFile where
  size : Nat
  content : Unit → ByteArray

/-- A file that holds certain bytes. -/
def StoredFile.ofBytes (bytes : ByteArray) : StoredFile := ⟨bytes.size, fun _ => bytes⟩

/-- What a machine offers. Whether a key can be read and why it cannot sign, whether a bundle holds
    the key to its certificate, which hosts have an address and which of these are its own is left
    to the machine. -/
structure Machine where
  read : String → Except FileFault StoredFile
  isSigningKey : String → Bool
  signingFault? : String → Option String
  isIdentity : List UInt8 → Bool
  hasAddress : String → Bool
  canListen : String → Bool
  processors : Nat

/-- The largest size of a credential file in bytes. Model of `MAX_CREDENTIAL_FILE_SIZE`. -/
def credentialLimit : Nat := 10 * 1024 * 1024

namespace Machine

/-- A machine with certain files, which judges keys by their labels alone, signs with any of them
    and asks nobody for the address of a host. -/
def ofFiles (files : List (String × Except FileFault StoredFile)) (processors : Nat) : Machine where
  read path := (files.lookup path).getD (.error .notFound)
  isSigningKey key := Pem.holdsKey key.toList
  signingFault? _ := none
  isIdentity bundle := Pem.holdsKey (Utf8.lossy bundle).toList
  hasAddress host := (Address.ofHost? host).isSome
  canListen host := (Address.ofHost? host).any Address.isOwn
  processors := processors

/-- Reads a credential file. Model of `read_credential_file`. -/
def readCredential (m : Machine) (path : String) : Except ConstructionError ByteArray :=
  match m.read path with
  | .error fault => .error (.unreadable path fault)
  | .ok file =>
    if file.size ≤ credentialLimit then .ok ((file.content ()).extract 0 credentialLimit)
    else .error (.fileTooLarge path file.size credentialLimit)

end Machine

end Courier
