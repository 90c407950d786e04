import SyncthingSocket.Effect.Program
import SyncthingSocket.Effect.Transition
import SyncthingSocket.Effect.Framing
import SyncthingSocket.Sequence.Occurs
import SyncthingSocket.Json.Encode
import SyncthingSocket.Json.Decode
import SyncthingSocket.Platform
import SyncthingSocket.Reference
import SyncthingSocket.Wire
import SyncthingSocket.Auth
import SyncthingSocket.MessageStream
import SyncthingSocket.Upgrade
import SyncthingSocket.Session
import SyncthingSocket.Server
import SyncthingSocket.Admission
import SyncthingSocket.Client
import SyncthingSocket.PeerVerification
import SyncthingSocket.AuthAgreement
import SyncthingSocket.Stages
import SyncthingSocket.Handoff
import SyncthingSocket.TransportAgreement
import SyncthingSocket.RelayFallback
import SyncthingSocket.RelayOnly
import SyncthingSocket.SignalInterleaving
import SyncthingSocket.Copy
import SyncthingSocket.CopyCalls
import SyncthingSocket.Pipe
import SyncthingSocket.PipeDelivery
import SyncthingSocket.StdinFeed
import SyncthingSocket.Text
import SyncthingSocket.Lines
import SyncthingSocket.Luks.Fetch
import SyncthingSocket.Truncation
import SyncthingSocket.RelayRace
import SyncthingSocket.RaceWinner
import SyncthingSocket.Announce
import SyncthingSocket.ClientFailures
import SyncthingSocket.Unlock
import SyncthingSocket.UnlockAdvice
import SyncthingSocket.ServerLoop
import SyncthingSocket.Forwarding
import SyncthingSocket.Luks.Agent
import SyncthingSocket.Luks.AskFile
import SyncthingSocket.Luks.Polling
import SyncthingSocket.Luks.AgentSafety
import SyncthingSocket.Json.Scan
import SyncthingSocket.Json.Literals
import SyncthingSocket.Json.Pieces
import SyncthingSocket.Luks.Token
import SyncthingSocket.Luks.DeviceScan
import SyncthingSocket.Json.Numbers
import SyncthingSocket.Luks.Classify
import SyncthingSocket.Luks.Bind
import SyncthingSocket.Luks.Pinning
import SyncthingSocket.Luks.Rebind
import SyncthingSocket.Luks.Readers
import SyncthingSocket.Luks.HeaderDump
import SyncthingSocket.Luks.Patterns
import SyncthingSocket.Luks.ShellConf
import SyncthingSocket.Luks.BoundToken
import SyncthingSocket.Luks.ReaderChoice
import SyncthingSocket.OpenPGP.Format
import SyncthingSocket.OpenPGP.Key
import SyncthingSocket.OpenPGP.KeyFormat
import SyncthingSocket.OpenPGP.Integer
import SyncthingSocket.OpenPGP.Encoding
import SyncthingSocket.Bits.Octets
import SyncthingSocket.Bits.ShiftRegister
import SyncthingSocket.OpenPGP.Crc24
import SyncthingSocket.Bits.Base64
import SyncthingSocket.OpenPGP.Armor
import SyncthingSocket.Luks.TokenSection
import SyncthingSocket.HandlerRuns
import SyncthingSocket.ProxyProtocol
import SyncthingSocket.Effect.Interpret
import SyncthingSocket.Services
import SyncthingSocket.Release
import SyncthingSocket.Bufio.Scanner
import SyncthingSocket.CommandStderr
import SyncthingSocket.Json.Standard
import SyncthingSocket.Luks.Pairing
import SyncthingSocket.Bits.WeightedSum
import SyncthingSocket.Bits.Base32
import SyncthingSocket.DeviceIDText
import SyncthingSocket.DeviceIDSlips
import SyncthingSocket.Luks.Enrolment
import SyncthingSocket.Luks.Initramfs
import SyncthingSocket.Luks.InitramfsSafety
import SyncthingSocket.Effect.Ticker
import SyncthingSocket.Readiness
import SyncthingSocket.UnlockCheck
import SyncthingSocket.Json.Torn
import SyncthingSocket.ShellResize
import SyncthingSocket.Effect.Descriptors
import SyncthingSocket.Stdout
import SyncthingSocket.Effect.Crash
import SyncthingSocket.Signing.Hkdf
import SyncthingSocket.Signing.Derive
import SyncthingSocket.Signing.Keystore
import SyncthingSocket.Signing.Identity
import SyncthingSocket.Signing.Pins
import SyncthingSocket.PhoneActivity
import SyncthingSocket.PhoneEntry
import SyncthingSocket.Bufio.Reader
import SyncthingSocket.HttpProxy
