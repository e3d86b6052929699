import Tftp.Text.Utf8
import Tftp.Text.Whitespace
import Tftp.Operation
import Tftp.FileName
import Tftp.Wire.Opcode
import Tftp.Wire.Packet
import Tftp.Wire.Error
import Tftp.Wire.Encode
import Tftp.Wire.Decode
import Tftp.Errno
import Tftp.Huffman.Error
import Tftp.Huffman.CodeLengths
import Tftp.Huffman.Canonical
import Tftp.Huffman.DecodeTable
import Tftp.Huffman.Container
import Tftp.Store.Volume
import Tftp.Access.Table
import Tftp.Access.Error
import Tftp.Access.Arbiter
import Tftp.Access.Interleaving
import Tftp.Huffman.Files
import Tftp.Decimal.Shortest
import Tftp.Json.Error
import Tftp.Json.Reader
import Tftp.Json.Typed
import Tftp.Text.Visible
import Tftp.Text.Escaped
import Tftp.Net.Address
import Tftp.Config.Settings
import Tftp.Config.Read
import Tftp.Config.Env
import Tftp.Net.Clock
import Tftp.Net.Host
import Tftp.Net.Network
import Tftp.Transfer.Error
import Tftp.Transfer.Session
import Tftp.Transfer.Stream
import Tftp.Access.Store
import Tftp.Transfer.Server
import Tftp.Transfer.Client
import Tftp.Simulation.World
import Tftp.Simulation.Probe
import Tftp.Simulation.Script
import Tftp.Simulation.Pairing
import Tftp.Command.Args
import Tftp.Main
import Tftp.Proofs.Admission
import Tftp.Proofs.Races
import Tftp.Proofs.Encoding
import Tftp.Proofs.Huffman.Bits
import Tftp.Proofs.Huffman.Canonical
import Tftp.Proofs.Huffman.Lengths
import Tftp.Proofs.Huffman.RoundTrip
import Tftp.Proofs.Huffman.Untrusted
import Tftp.Proofs.Huffman.Optimal
import Tftp.Proofs.Huffman.Depth
import Tftp.Proofs.Huffman.PrefixCode
import Tftp.Proofs.Store.ReadWrite
import Tftp.Proofs.Store.Accounting
import Tftp.Proofs.Store.Refusals
import Tftp.Proofs.Store.Names
import Tftp.Proofs.Store.Refinement
import Tftp.Proofs.Net.Runs
import Tftp.Proofs.Net.Sockets
import Tftp.Proofs.Release.Tally
import Tftp.Proofs.Release.Server
import Tftp.Proofs.Release.Client
import Tftp.Proofs.Text.Utf8
import Tftp.Proofs.Decoding
import Tftp.Proofs.Session.Wiretap
import Tftp.Proofs.Session.Retries
import Tftp.Proofs.Session.Peers
import Tftp.Proofs.Requests
import Tftp.Proofs.LocalFiles
import Tftp.Proofs.Config.Loading
import Tftp.Proofs.Config.Timing
