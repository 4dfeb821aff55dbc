import VCardEmul.Basic.Status
import VCardEmul.Basic.Memory
import VCardEmul.Rsa.Block
import VCardEmul.Rsa.Op
import VCardEmul.Rsa.Paths
import VCardEmul.Rsa.RawRsa
import VCardEmul.Rsa.Bounds
import VCardEmul.Rsa.Agreement
import VCardEmul.Rsa.Memo
import VCardEmul.Rsa.Fallback
import VCardEmul.Session.Login
import VCardEmul.Reader.Emul
import VCardEmul.Reader.Presence
import VCardEmul.Reader.Series
import VCardEmul.Reader.Interleaved
import VCardEmul.Reader.Registry
import VCardEmul.Mirror.Sort
import VCardEmul.Options.Parse
import VCardEmul.Options.Accepted
import VCardEmul.Options.Print
import VCardEmul.Options.Format
import VCardEmul.Mirror.ReadObject
import VCardEmul.Reader.Init
