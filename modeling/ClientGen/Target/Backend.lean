import ClientGen.Target.Basic
import ClientGen.Text.Utf8

/-! # Backends

A backend is whatever can generate the files of a package. It writes the client and the types
byte by byte, and can fail at any time; a target is the backend that renders its templates.
-/

namespace ClientGen

/-- What writing a file comes to: the bytes that have been written, and the error if not all
    have. -/
structure Emitted where
  written : ByteArray := .empty
  error? : Option GenerationError := none

namespace Emitted

/-- The text of the file. What has been written of a file that failed counts for nothing. -/
def text (emitted : Emitted) : Except GenerationError String :=
  match emitted.error? with
  | none => .ok (Text.Utf8.read emitted.written)
  | some error => .error error

/-- A file that is written all at once. -/
def ofText : Except GenerationError String → Emitted
  | .ok text => { written := text.toUTF8 }
  | .error error => { error? := some error }

theorem text_ofText (text : Except GenerationError String) : (ofText text).text = text := by
  cases text with
  | ok text => exact congrArg _ (Text.Utf8.read_toByteArray text)
  | error error => rfl

end Emitted

structure Backend where
  language : String
  clientPath : String
  typesPath : String
  additional : List AdditionalFile
  emitClient : Api → Emitted
  emitTypes : Types → Emitted
  renderAdditional : AdditionalFile → Except Template.Error String

def Backend.emitAdditional (backend : Backend) (file : AdditionalFile) :
    Except GenerationError String :=
  (backend.renderAdditional file).mapError
    (.badRendering backend.language .additional file.path)

def Target.backend (target : Target) : Backend where
  language := target.language
  clientPath := target.clientPath
  typesPath := target.typesPath
  additional := target.additional
  emitClient api := .ofText (target.emitClient api)
  emitTypes types := .ofText (target.emitTypes types)
  renderAdditional := target.renderAdditional

end ClientGen
