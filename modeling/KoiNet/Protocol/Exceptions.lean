import Mathlib.Logic.Basic

/-!
# Exceptions

The library's own hierarchies, and the exceptions of Python and of third
parties that the modelled code can run into.  `RequestError` and
`ProtocolError` are unrelated branches of `KoiNetError`: catching one does
not catch the other.
-/

namespace KoiNet

/-- Subclasses of `exceptions.RequestError`. -/
inductive RequestError where
  | selfRequest
  | partialNodeQuery
  | nodeNotFound
  | transport
  | server
  | remoteUnknownNode
  | remoteInvalidKey
  | remoteInvalidSignature
  | remoteInvalidTarget
  deriving DecidableEq, Repr

/-- Subclasses of `exceptions.ProtocolError`. -/
inductive ProtocolError where
  | unknownNode
  | invalidKey
  | invalidSignature
  | invalidTarget
  deriving DecidableEq, Repr

inductive Exc where
  | request (error : RequestError)
  | protocol (error : ProtocolError)
  | validationError
  | attributeError
  | indexError
  | typeError
  | valueError
  | overflowError
  | networkXError
  | osError
  | serializationError
  | invalidSignature
  deriving DecidableEq, Repr

/-- What `except InvalidSignature` catches. -/
def Exc.isInvalidSignature : Exc → Bool
  | .invalidSignature => true
  | _ => false

/-- What `except RequestError` catches. -/
def Exc.isRequestError : Exc → Bool
  | .request _ => true
  | _ => false

end KoiNet
