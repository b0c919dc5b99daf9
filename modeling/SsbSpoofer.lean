import SsbSpoofer.Basic
import SsbSpoofer.Config
import SsbSpoofer.Phy
import SsbSpoofer.Rf
import SsbSpoofer.SampleFile
import SsbSpoofer.TxLoop
import SsbSpoofer.Scan
import SsbSpoofer.Burst
import SsbSpoofer.ConfigFile
import SsbSpoofer.Loader
import SsbSpoofer.Main
import SsbSpoofer.Analyzer
import SsbSpoofer.Summary
