/-!
# UTF-8

Texts as bytes. Not all bytes are a text.
-/

namespace Reveille.Text

def utf8 (s : String) : List UInt8 :=
  s.toUTF8.toList

def ofUtf8? (bytes : List UInt8) : Option String :=
  String.fromUTF8? ⟨bytes.toArray⟩

def isText (bytes : List UInt8) : Bool :=
  (ofUtf8? bytes).isSome

end Reveille.Text
