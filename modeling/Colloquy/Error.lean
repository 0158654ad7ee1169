/-!
# Errors

What can go wrong in a conversation: a call of a vendor's service, the configuration, a session, a file, or a JSON
text. `Error.message` is the wording that people and the failed messages of a session show.
-/

namespace Colloquy

/-- What can go wrong while a service is called. -/
inductive ApiError where
  /-- The service could not be reached. -/
  | network (text : String)
  /-- The service answered with a status that is no success. -/
  | server (status : Nat) (text : String)
  /-- The service answered with success and without a single byte. -/
  | missingBody
  /-- The answer broke off, or the service reported a fault inside it. -/
  | stream (text : String)
  /-- A line of the answer carries no event. -/
  | decode (line reason : String)
  deriving DecidableEq, Repr

/-- What can go wrong with a file. -/
inductive FileError where
  | isDirectory
  | exists
  | notDirectory
  | notFound
  | nameTooLong
  | nulInName
  | invalidUtf8
  | other (text : String)
  deriving DecidableEq, Repr

/-- What can go wrong. -/
inductive Error where
  | api (error : ApiError)
  | config (text : String)
  | session (text : String)
  | io (error : FileError)
  | json (reason : String)
  deriving DecidableEq, Repr

/-- A failed call in words. -/
def ApiError.message : ApiError → String
  | .network text => "Network error: " ++ text
  | .server status text => "API error (" ++ toString status ++ "): " ++ text
  | .missingBody => "Response body is empty"
  | .stream text => "Streaming error: " ++ text
  | .decode line reason => "Error parsing chunk `" ++ line ++ "`: " ++ reason

/-- A failed use of a file in words. -/
def FileError.message : FileError → String
  | .isDirectory => "Is a directory (os error 21)"
  | .exists => "File exists (os error 17)"
  | .notDirectory => "Not a directory (os error 20)"
  | .notFound => "No such file or directory (os error 2)"
  | .nameTooLong => "File name too long (os error 36)"
  | .nulInName => "file name contained an unexpected NUL byte"
  | .invalidUtf8 => "stream did not contain valid UTF-8"
  | .other text => text

namespace Error

/-- An error in words. -/
def message : Error → String
  | .api e => "API error: " ++ e.message
  | .config text => "Configuration error: " ++ text
  | .session text => "Session error: " ++ text
  | .io e => "IO error: " ++ e.message
  | .json reason => "JSON error: " ++ reason

/-- Whether the error was raised before any work began, by what is configured or selected. -/
def isConfig : Error → Bool
  | .config _ => true
  | _ => false

end Error

end Colloquy
