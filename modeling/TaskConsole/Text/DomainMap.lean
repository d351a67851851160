import TaskConsole.Text.RangeTable

/-! How domain names map characters (UTS #46, Unicode 17.0): kept, mapped, ignored or
disallowed, written as a text table of ranges. -/

namespace TaskConsole.Text

/-- What a domain name does with a character. -/
inductive Treatment where
  | valid
  | ignored
  | disallowed
  | mapped (replacement : List Char)
  deriving DecidableEq, Repr

/-- A record's value: a treatment, or a shift applied to each code point of
its range. -/
inductive MapRule where
  | treat (t : Treatment)
  | shift (offset : Int)

/-- A signed hexadecimal shift, `+` or `-` and digits. -/
def shiftOf : List Char → Int
  | '-' :: ds => -((hexPrefix ds).1 : Int)
  | '+' :: ds => (hexPrefix ds).1
  | ds => (hexPrefix ds).1

/-- Code points separated by dots, in hexadecimal. -/
def codePointsOf (cs : List Char) : List Char :=
  ((String.ofList cs).splitOn ".").map fun p => Char.ofNat (hexPrefix p.toList).1

/-- A record's rule from its text after the code point. -/
def MapRule.ofText : List Char → MapRule
  | 'v' :: _ => .treat .valid
  | 'i' :: _ => .treat .ignored
  | 'm' :: rest => .treat (.mapped (codePointsOf rest))
  | 's' :: rest => .shift (shiftOf rest)
  | _ => .treat .disallowed

/-- The mapping table as written. -/
def domainMapText : String :=
  String.join [
  "0v,41s+20,5bv,80x,a0m20,a1v,a8m20.308,a9v,aam61,abv,adi,aev,afm20.304,b0v,b2s-80,b4m20.301,",
  "b5m3bc,b6v,b8m20.327,b9m31,bam6f,bbv,bcm31.2044.34,bdm31.2044.32,bem33.2044.34,bfv,c0s+20,d7v,",
  "d8s+20,dfv,100m101,101v,102m103,103v,104m105,105v,106m107,107v,108m109,109v,10am10b,10bv,",
  "10cm10d,10dv,10em10f,10fv,110m111,111v,112m113,113v,114m115,115v,116m117,117v,118m119,119v,",
  "11am11b,11bv,11cm11d,11dv,11em11f,11fv,120m121,121v,122m123,123v,124m125,125v,126m127,127v,",
  "128m129,129v,12am12b,12bv,12cm12d,12dv,12em12f,12fv,130m69.307,131v,132m69.6a,134m135,135v,",
  "136m137,137v,139m13a,13av,13bm13c,13cv,13dm13e,13ev,13fm6c.b7,141m142,142v,143m144,144v,145m146,",
  "146v,147m148,148v,149m2bc.6e,14am14b,14bv,14cm14d,14dv,14em14f,14fv,150m151,151v,152m153,153v,",
  "154m155,155v,156m157,157v,158m159,159v,15am15b,15bv,15cm15d,15dv,15em15f,15fv,160m161,161v,",
  "162m163,163v,164m165,165v,166m167,167v,168m169,169v,16am16b,16bv,16cm16d,16dv,16em16f,16fv,",
  "170m171,171v,172m173,173v,174m175,175v,176m177,177v,178mff,179m17a,17av,17bm17c,17cv,17dm17e,",
  "17ev,17fm73,180v,181m253,182m183,183v,184m185,185v,186m254,187m188,188v,189s+cd,18bm18c,18cv,",
  "18em1dd,18fm259,190m25b,191m192,192v,193m260,194m263,195v,196m269,197m268,198m199,199v,19cm26f,",
  "19dm272,19ev,19fm275,1a0m1a1,1a1v,1a2m1a3,1a3v,1a4m1a5,1a5v,1a6m280,1a7m1a8,1a8v,1a9m283,1aav,",
  "1acm1ad,1adv,1aem288,1afm1b0,1b0v,1b1s+d9,1b3m1b4,1b4v,1b5m1b6,1b6v,1b7m292,1b8m1b9,1b9v,",
  "1bcm1bd,1bdv,1c4m64.17e,1c7m6c.6a,1cam6e.6a,1cdm1ce,1cev,1cfm1d0,1d0v,1d1m1d2,1d2v,1d3m1d4,1d4v,",
  "1d5m1d6,1d6v,1d7m1d8,1d8v,1d9m1da,1dav,1dbm1dc,1dcv,1dem1df,1dfv,1e0m1e1,1e1v,1e2m1e3,1e3v,",
  "1e4m1e5,1e5v,1e6m1e7,1e7v,1e8m1e9,1e9v,1eam1eb,1ebv,1ecm1ed,1edv,1eem1ef,1efv,1f1m64.7a,1f4m1f5,",
  "1f5v,1f6m195,1f7m1bf,1f8m1f9,1f9v,1fam1fb,1fbv,1fcm1fd,1fdv,1fem1ff,1ffv,200m201,201v,202m203,",
  "203v,204m205,205v,206m207,207v,208m209,209v,20am20b,20bv,20cm20d,20dv,20em20f,20fv,210m211,211v,",
  "212m213,213v,214m215,215v,216m217,217v,218m219,219v,21am21b,21bv,21cm21d,21dv,21em21f,21fv,",
  "220m19e,221v,222m223,223v,224m225,225v,226m227,227v,228m229,229v,22am22b,22bv,22cm22d,22dv,",
  "22em22f,22fv,230m231,231v,232m233,233v,23am2c65,23bm23c,23cv,23dm19a,23em2c66,23fv,241m242,242v,",
  "243m180,244m289,245m28c,246m247,247v,248m249,249v,24am24b,24bv,24cm24d,24dv,24em24f,24fv,2b0m68,",
  "2b1m266,2b2m6a,2b3m72,2b4m279,2b5m27b,2b6m281,2b7m77,2b8m79,2b9v,2d8m20.306,2d9m20.307,",
  "2dam20.30a,2dbm20.328,2dcm20.303,2ddm20.30b,2dev,2e0m263,2e1m6c,2e2m73,2e3m78,2e4m295,2e5v,",
  "340s-40,342v,343m313,344m308.301,345m3b9,346v,34fi,350v,370m371,371v,372m373,373v,374m2b9,375v,",
  "376m377,377v,378x,37am20.3b9,37bv,37em3b,37fm3f3,380x,384m20.301,385m20.308.301,386m3ac,387mb7,",
  "388s+25,38bx,38cm3cc,38dx,38es+3f,390v,391s+20,3a2x,3a3s+20,3acv,3cfm3d7,3d0m3b2,3d1m3b8,",
  "3d2m3c5,3d3m3cd,3d4m3cb,3d5m3c6,3d6m3c0,3d7v,3d8m3d9,3d9v,3dam3db,3dbv,3dcm3dd,3ddv,3dem3df,",
  "3dfv,3e0m3e1,3e1v,3e2m3e3,3e3v,3e4m3e5,3e5v,3e6m3e7,3e7v,3e8m3e9,3e9v,3eam3eb,3ebv,3ecm3ed,3edv,",
  "3eem3ef,3efv,3f0m3ba,3f1m3c1,3f2m3c3,3f3v,3f4m3b8,3f5m3b5,3f6v,3f7m3f8,3f8v,3f9m3c3,3fam3fb,",
  "3fbv,3fds-82,400s+50,410s+20,430v,460m461,461v,462m463,463v,464m465,465v,466m467,467v,468m469,",
  "469v,46am46b,46bv,46cm46d,46dv,46em46f,46fv,470m471,471v,472m473,473v,474m475,475v,476m477,477v,",
  "478m479,479v,47am47b,47bv,47cm47d,47dv,47em47f,47fv,480m481,481v,48am48b,48bv,48cm48d,48dv,",
  "48em48f,48fv,490m491,491v,492m493,493v,494m495,495v,496m497,497v,498m499,499v,49am49b,49bv,",
  "49cm49d,49dv,49em49f,49fv,4a0m4a1,4a1v,4a2m4a3,4a3v,4a4m4a5,4a5v,4a6m4a7,4a7v,4a8m4a9,4a9v,",
  "4aam4ab,4abv,4acm4ad,4adv,4aem4af,4afv,4b0m4b1,4b1v,4b2m4b3,4b3v,4b4m4b5,4b5v,4b6m4b7,4b7v,",
  "4b8m4b9,4b9v,4bam4bb,4bbv,4bcm4bd,4bdv,4bem4bf,4bfv,4c0m4cf,4c1m4c2,4c2v,4c3m4c4,4c4v,4c5m4c6,",
  "4c6v,4c7m4c8,4c8v,4c9m4ca,4cav,4cbm4cc,4ccv,4cdm4ce,4cev,4d0m4d1,4d1v,4d2m4d3,4d3v,4d4m4d5,4d5v,",
  "4d6m4d7,4d7v,4d8m4d9,4d9v,4dam4db,4dbv,4dcm4dd,4ddv,4dem4df,4dfv,4e0m4e1,4e1v,4e2m4e3,4e3v,",
  "4e4m4e5,4e5v,4e6m4e7,4e7v,4e8m4e9,4e9v,4eam4eb,4ebv,4ecm4ed,4edv,4eem4ef,4efv,4f0m4f1,4f1v,",
  "4f2m4f3,4f3v,4f4m4f5,4f5v,4f6m4f7,4f7v,4f8m4f9,4f9v,4fam4fb,4fbv,4fcm4fd,4fdv,4fem4ff,4ffv,",
  "500m501,501v,502m503,503v,504m505,505v,506m507,507v,508m509,509v,50am50b,50bv,50cm50d,50dv,",
  "50em50f,50fv,510m511,511v,512m513,513v,514m515,515v,516m517,517v,518m519,519v,51am51b,51bv,",
  "51cm51d,51dv,51em51f,51fv,520m521,521v,522m523,523v,524m525,525v,526m527,527v,528m529,529v,",
  "52am52b,52bv,52cm52d,52dv,52em52f,52fv,530x,531s+30,557x,559v,587m565.582,588v,58bx,58dv,590x,",
  "591v,5c8x,5d0v,5ebx,5efv,5f5x,606v,61cx,61dv,675m627.674,676m648.674,677m6c7.674,678m64a.674,",
  "679v,6ddx,6dev,70ex,710v,74bx,74dv,7b2x,7c0v,7fbx,7fdv,82ex,830v,83fx,840v,85cx,85ev,85fx,860v,",
  "86bx,870v,890x,897v,8e2x,8e3v,958m915.93c,959m916.93c,95am917.93c,95bm91c.93c,95cm921.93c,",
  "95dm922.93c,95em92b.93c,95fm92f.93c,960v,984x,985v,98dx,98fv,991x,993v,9a9x,9aav,9b1x,9b2v,9b3x,",
  "9b6v,9bax,9bcv,9c5x,9c7v,9c9x,9cbv,9cfx,9d7v,9d8x,9dcm9a1.9bc,9ddm9a2.9bc,9dex,9dfm9af.9bc,9e0v,",
  "9e4x,9e6v,9ffx,a01v,a04x,a05v,a0bx,a0fv,a11x,a13v,a29x,a2av,a31x,a32v,a33ma32.a3c,a34x,a35v,",
  "a36ma38.a3c,a37x,a38v,a3ax,a3cv,a3dx,a3ev,a43x,a47v,a49x,a4bv,a4ex,a51v,a52x,a59ma16.a3c,",
  "a5ama17.a3c,a5bma1c.a3c,a5cv,a5dx,a5ema2b.a3c,a5fx,a66v,a77x,a81v,a84x,a85v,a8ex,a8fv,a92x,a93v,",
  "aa9x,aaav,ab1x,ab2v,ab4x,ab5v,abax,abcv,ac6x,ac7v,acax,acbv,acex,ad0v,ad1x,ae0v,ae4x,ae6v,af2x,",
  "af9v,b00x,b01v,b04x,b05v,b0dx,b0fv,b11x,b13v,b29x,b2av,b31x,b32v,b34x,b35v,b3ax,b3cv,b45x,b47v,",
  "b49x,b4bv,b4ex,b55v,b58x,b5cmb21.b3c,b5dmb22.b3c,b5ex,b5fv,b64x,b66v,b78x,b82v,b84x,b85v,b8bx,",
  "b8ev,b91x,b92v,b96x,b99v,b9bx,b9cv,b9dx,b9ev,ba0x,ba3v,ba5x,ba8v,babx,baev,bbax,bbev,bc3x,bc6v,",
  "bc9x,bcav,bcex,bd0v,bd1x,bd7v,bd8x,be6v,bfbx,c00v,c0dx,c0ev,c11x,c12v,c29x,c2av,c3ax,c3cv,c45x,",
  "c46v,c49x,c4av,c4ex,c55v,c57x,c58v,c5bx,c5cv,c5ex,c60v,c64x,c66v,c70x,c77v,c8dx,c8ev,c91x,c92v,",
  "ca9x,caav,cb4x,cb5v,cbax,cbcv,cc5x,cc6v,cc9x,ccav,ccex,cd5v,cd7x,cdcv,cdfx,ce0v,ce4x,ce6v,cf0x,",
  "cf1v,cf4x,d00v,d0dx,d0ev,d11x,d12v,d45x,d46v,d49x,d4av,d50x,d54v,d64x,d66v,d80x,d81v,d84x,d85v,",
  "d97x,d9av,db2x,db3v,dbcx,dbdv,dbex,dc0v,dc7x,dcav,dcbx,dcfv,dd5x,dd6v,dd7x,dd8v,de0x,de6v,df0x,",
  "df2v,df5x,e01v,e33me4d.e32,e34v,e3bx,e3fv,e5cx,e81v,e83x,e84v,e85x,e86v,e8bx,e8cv,ea4x,ea5v,",
  "ea6x,ea7v,eb3mecd.eb2,eb4v,ebex,ec0v,ec5x,ec6v,ec7x,ec8v,ecfx,ed0v,edax,edcmeab.e99,eddmeab.ea1,",
  "edev,ee0x,f00v,f0cmf0b,f0dv,f43mf42.fb7,f44v,f48x,f49v,f4dmf4c.fb7,f4ev,f52mf51.fb7,f53v,",
  "f57mf56.fb7,f58v,f5cmf5b.fb7,f5dv,f69mf40.fb5,f6av,f6dx,f71v,f73mf71.f72,f74v,f75mf71.f74,",
  "f76mfb2.f80,f77mfb2.f71.f80,f78mfb3.f80,f79mfb3.f71.f80,f7av,f81mf71.f80,f82v,f93mf92.fb7,f94v,",
  "f98x,f99v,f9dmf9c.fb7,f9ev,fa2mfa1.fb7,fa3v,fa7mfa6.fb7,fa8v,facmfab.fb7,fadv,fb9mf90.fb5,fbav,",
  "fbdx,fbev,fcdx,fcev,fdbx,1000v,10a0s+1c60,10c6x,10c7m2d27,10c8x,10cdm2d2d,10cex,10d0v,10fcm10dc,",
  "10fdv,115fi,1161v,1249x,124av,124ex,1250v,1257x,1258v,1259x,125av,125ex,1260v,1289x,128av,128ex,",
  "1290v,12b1x,12b2v,12b6x,12b8v,12bfx,12c0v,12c1x,12c2v,12c6x,12c8v,12d7x,12d8v,1311x,1312v,1316x,",
  "1318v,135bx,135dv,137dx,1380v,139ax,13a0v,13f6x,13f8s-8,13fex,1400v,1680x,1681v,169dx,16a0v,",
  "16f9x,1700v,1716x,171fv,1737x,1740v,1754x,1760v,176dx,176ev,1771x,1772v,1774x,1780v,17b4i,17b6v,",
  "17dex,17e0v,17eax,17f0v,17fax,1800v,180bi,1810v,181ax,1820v,1879x,1880v,18abx,18b0v,18f6x,1900v,",
  "191fx,1920v,192cx,1930v,193cx,1940v,1941x,1944v,196ex,1970v,1975x,1980v,19acx,19b0v,19cax,19d0v,",
  "19dbx,19dev,1a1cx,1a1ev,1a5fx,1a60v,1a7dx,1a7fv,1a8ax,1a90v,1a9ax,1aa0v,1aaex,1ab0v,1adex,1ae0v,",
  "1aecx,1b00v,1b4dx,1b4ev,1bf4x,1bfcv,1c38x,1c3bv,1c4ax,1c4dv,1c80m432,1c81m434,1c82m43e,1c83m441,",
  "1c84m442,1c86m44a,1c87m463,1c88ma64b,1c89m1c8a,1c8av,1c8bx,1c90s-bc0,1cbbx,1cbds-bc0,1cc0v,",
  "1cc8x,1cd0v,1cfbx,1d00v,1d2cm61,1d2dme6,1d2em62,1d2fv,1d30s-1ccc,1d32m1dd,1d33s-1ccc,1d3bv,",
  "1d3cm6f,1d3dm223,1d3em70,1d3fm72,1d40s-1ccc,1d42m77,1d43m61,1d44s-1af4,1d46m1d02,1d47m62,",
  "1d48s-1ce4,1d4am259,1d4bs-1af0,1d4dm67,1d4ev,1d4fm6b,1d50m6d,1d51m14b,1d52m6f,1d53m254,1d54s-3e,",
  "1d56m70,1d57s-1ce3,1d59m1d1d,1d5am26f,1d5bm76,1d5cm1d25,1d5ds-19ab,1d60s-199a,1d62m69,1d63m72,",
  "1d64s-1cef,1d66s-19b4,1d68m3c1,1d69s-19a3,1d6bv,1d78m43d,1d79v,1d9bm252,1d9cm63,1d9dm255,",
  "1d9emf0,1d9fm25c,1da0m66,1da1m25f,1da2m261,1da3m265,1da4s-1b3c,1da7m1d7b,1da8m29d,1da9m26d,",
  "1daam1d85,1dabm29f,1dacm271,1dadm270,1daes-1b3c,1db2m278,1db3s-1b31,1db5m1ab,1db6s-1b2d,",
  "1db8m1d1c,1db9s-1b2e,1dbbm7a,1dbcs-1b2c,1dbfm3b8,1dc0v,1e00m1e01,1e01v,1e02m1e03,1e03v,",
  "1e04m1e05,1e05v,1e06m1e07,1e07v,1e08m1e09,1e09v,1e0am1e0b,1e0bv,1e0cm1e0d,1e0dv,1e0em1e0f,1e0fv,",
  "1e10m1e11,1e11v,1e12m1e13,1e13v,1e14m1e15,1e15v,1e16m1e17,1e17v,1e18m1e19,1e19v,1e1am1e1b,1e1bv,",
  "1e1cm1e1d,1e1dv,1e1em1e1f,1e1fv,1e20m1e21,1e21v,1e22m1e23,1e23v,1e24m1e25,1e25v,1e26m1e27,1e27v,",
  "1e28m1e29,1e29v,1e2am1e2b,1e2bv,1e2cm1e2d,1e2dv,1e2em1e2f,1e2fv,1e30m1e31,1e31v,1e32m1e33,1e33v,",
  "1e34m1e35,1e35v,1e36m1e37,1e37v,1e38m1e39,1e39v,1e3am1e3b,1e3bv,1e3cm1e3d,1e3dv,1e3em1e3f,1e3fv,",
  "1e40m1e41,1e41v,1e42m1e43,1e43v,1e44m1e45,1e45v,1e46m1e47,1e47v,1e48m1e49,1e49v,1e4am1e4b,1e4bv,",
  "1e4cm1e4d,1e4dv,1e4em1e4f,1e4fv,1e50m1e51,1e51v,1e52m1e53,1e53v,1e54m1e55,1e55v,1e56m1e57,1e57v,",
  "1e58m1e59,1e59v,1e5am1e5b,1e5bv,1e5cm1e5d,1e5dv,1e5em1e5f,1e5fv,1e60m1e61,1e61v,1e62m1e63,1e63v,",
  "1e64m1e65,1e65v,1e66m1e67,1e67v,1e68m1e69,1e69v,1e6am1e6b,1e6bv,1e6cm1e6d,1e6dv,1e6em1e6f,1e6fv,",
  "1e70m1e71,1e71v,1e72m1e73,1e73v,1e74m1e75,1e75v,1e76m1e77,1e77v,1e78m1e79,1e79v,1e7am1e7b,1e7bv,",
  "1e7cm1e7d,1e7dv,1e7em1e7f,1e7fv,1e80m1e81,1e81v,1e82m1e83,1e83v,1e84m1e85,1e85v,1e86m1e87,1e87v,",
  "1e88m1e89,1e89v,1e8am1e8b,1e8bv,1e8cm1e8d,1e8dv,1e8em1e8f,1e8fv,1e90m1e91,1e91v,1e92m1e93,1e93v,",
  "1e94m1e95,1e95v,1e9am61.2be,1e9bm1e61,1e9cv,1e9emdf,1e9fv,1ea0m1ea1,1ea1v,1ea2m1ea3,1ea3v,",
  "1ea4m1ea5,1ea5v,1ea6m1ea7,1ea7v,1ea8m1ea9,1ea9v,1eaam1eab,1eabv,1eacm1ead,1eadv,1eaem1eaf,1eafv,",
  "1eb0m1eb1,1eb1v,1eb2m1eb3,1eb3v,1eb4m1eb5,1eb5v,1eb6m1eb7,1eb7v,1eb8m1eb9,1eb9v,1ebam1ebb,1ebbv,",
  "1ebcm1ebd,1ebdv,1ebem1ebf,1ebfv,1ec0m1ec1,1ec1v,1ec2m1ec3,1ec3v,1ec4m1ec5,1ec5v,1ec6m1ec7,1ec7v,",
  "1ec8m1ec9,1ec9v,1ecam1ecb,1ecbv,1eccm1ecd,1ecdv,1ecem1ecf,1ecfv,1ed0m1ed1,1ed1v,1ed2m1ed3,1ed3v,",
  "1ed4m1ed5,1ed5v,1ed6m1ed7,1ed7v,1ed8m1ed9,1ed9v,1edam1edb,1edbv,1edcm1edd,1eddv,1edem1edf,1edfv,",
  "1ee0m1ee1,1ee1v,1ee2m1ee3,1ee3v,1ee4m1ee5,1ee5v,1ee6m1ee7,1ee7v,1ee8m1ee9,1ee9v,1eeam1eeb,1eebv,",
  "1eecm1eed,1eedv,1eeem1eef,1eefv,1ef0m1ef1,1ef1v,1ef2m1ef3,1ef3v,1ef4m1ef5,1ef5v,1ef6m1ef7,1ef7v,",
  "1ef8m1ef9,1ef9v,1efam1efb,1efbv,1efcm1efd,1efdv,1efem1eff,1effv,1f08s-8,1f10v,1f16x,1f18s-8,",
  "1f1ex,1f20v,1f28s-8,1f30v,1f38s-8,1f40v,1f46x,1f48s-8,1f4ex,1f50v,1f58x,1f59m1f51,1f5ax,",
  "1f5bm1f53,1f5cx,1f5dm1f55,1f5ex,1f5fm1f57,1f60v,1f68s-8,1f70v,1f71m3ac,1f72v,1f73m3ad,1f74v,",
  "1f75m3ae,1f76v,1f77m3af,1f78v,1f79m3cc,1f7av,1f7bm3cd,1f7cv,1f7dm3ce,1f7ex,1f80m1f00.3b9,",
  "1f81m1f01.3b9,1f82m1f02.3b9,1f83m1f03.3b9,1f84m1f04.3b9,1f85m1f05.3b9,1f86m1f06.3b9,",
  "1f87m1f07.3b9,1f88m1f00.3b9,1f89m1f01.3b9,1f8am1f02.3b9,1f8bm1f03.3b9,1f8cm1f04.3b9,",
  "1f8dm1f05.3b9,1f8em1f06.3b9,1f8fm1f07.3b9,1f90m1f20.3b9,1f91m1f21.3b9,1f92m1f22.3b9,",
  "1f93m1f23.3b9,1f94m1f24.3b9,1f95m1f25.3b9,1f96m1f26.3b9,1f97m1f27.3b9,1f98m1f20.3b9,",
  "1f99m1f21.3b9,1f9am1f22.3b9,1f9bm1f23.3b9,1f9cm1f24.3b9,1f9dm1f25.3b9,1f9em1f26.3b9,",
  "1f9fm1f27.3b9,1fa0m1f60.3b9,1fa1m1f61.3b9,1fa2m1f62.3b9,1fa3m1f63.3b9,1fa4m1f64.3b9,",
  "1fa5m1f65.3b9,1fa6m1f66.3b9,1fa7m1f67.3b9,1fa8m1f60.3b9,1fa9m1f61.3b9,1faam1f62.3b9,",
  "1fabm1f63.3b9,1facm1f64.3b9,1fadm1f65.3b9,1faem1f66.3b9,1fafm1f67.3b9,1fb0v,1fb2m1f70.3b9,",
  "1fb3m3b1.3b9,1fb4m3ac.3b9,1fb5x,1fb6v,1fb7m1fb6.3b9,1fb8s-8,1fbam1f70,1fbbm3ac,1fbcm3b1.3b9,",
  "1fbdm20.313,1fbem3b9,1fbfm20.313,1fc0m20.342,1fc1m20.308.342,1fc2m1f74.3b9,1fc3m3b7.3b9,",
  "1fc4m3ae.3b9,1fc5x,1fc6v,1fc7m1fc6.3b9,1fc8m1f72,1fc9m3ad,1fcam1f74,1fcbm3ae,1fccm3b7.3b9,",
  "1fcdm20.313.300,1fcem20.313.301,1fcfm20.313.342,1fd0v,1fd3m390,1fd4x,1fd6v,1fd8s-8,1fdam1f76,",
  "1fdbm3af,1fdcx,1fddm20.314.300,1fdem20.314.301,1fdfm20.314.342,1fe0v,1fe3m3b0,1fe4v,1fe8s-8,",
  "1feam1f7a,1febm3cd,1fecm1fe5,1fedm20.308.300,1feem20.308.301,1fefm60,1ff0x,1ff2m1f7c.3b9,",
  "1ff3m3c9.3b9,1ff4m3ce.3b9,1ff5x,1ff6v,1ff7m1ff6.3b9,1ff8m1f78,1ff9m3cc,1ffam1f7c,1ffbm3ce,",
  "1ffcm3c9.3b9,1ffdm20.301,1ffem20.314,1fffx,2000m20,200bi,200cv,200ex,2010v,2011m2010,2012v,",
  "2017m20.333,2018v,2024x,2027v,2028x,202fm20,2030v,2033m2032.2032,2034m2032.2032.2032,2035v,",
  "2036m2035.2035,2037m2035.2035.2035,2038v,203cm21.21,203dv,203em20.305,203fv,2047m3f.3f,",
  "2048m3f.21,2049m21.3f,204av,2057m2032.2032.2032.2032,2058v,205fm20,2060i,2065x,206ai,2070m30,",
  "2071m69,2072x,2074s-2040,207am2b,207bm2212,207cm3d,207ds-2055,207fm6e,2080s-2050,208am2b,",
  "208bm2212,208cm3d,208ds-2065,208fx,2090m61,2091m65,2092m6f,2093m78,2094m259,2095m68,2096s-202b,",
  "209am70,209bs-2028,209dx,20a0v,20a8m72.73,20a9v,20c2x,20d0v,20f1x,2100m61.2f.63,2101m61.2f.73,",
  "2102m63,2103mb0.63,2104v,2105m63.2f.6f,2106m63.2f.75,2107m25b,2108v,2109mb0.66,210am67,210bm68,",
  "210fm127,2110m69,2112m6c,2114v,2115m6e,2116m6e.6f,2117v,2119s-20a9,211bm72,211ev,2120m73.6d,",
  "2121m74.65.6c,2122m74.6d,2123v,2124m7a,2125v,2126m3c9,2127v,2128m7a,2129v,212am6b,212bme5,",
  "212cs-20ca,212ev,212fm65,2131m66,2132m214e,2133m6d,2134m6f,2135s-1b65,2139m69,213av,",
  "213bm66.61.78,213cm3c0,213dm3b3,213fm3c0,2140m2211,2141v,2145m64,2147m65,2148s-20df,214av,",
  "2150m31.2044.37,2151m31.2044.39,2152m31.2044.31.30,2153m31.2044.33,2154m32.2044.33,",
  "2155m31.2044.35,2156m32.2044.35,2157m33.2044.35,2158m34.2044.35,2159m31.2044.36,215am35.2044.36,",
  "215bm31.2044.38,215cm33.2044.38,215dm35.2044.38,215em37.2044.38,215fm31.2044,2160m69,2161m69.69,",
  "2162m69.69.69,2163m69.76,2164m76,2165m76.69,2166m76.69.69,2167m76.69.69.69,2168m69.78,2169m78,",
  "216am78.69,216bm78.69.69,216cm6c,216ds-210a,216fm6d,2170m69,2171m69.69,2172m69.69.69,2173m69.76,",
  "2174m76,2175m76.69,2176m76.69.69,2177m76.69.69.69,2178m69.78,2179m78,217am78.69,217bm78.69.69,",
  "217cm6c,217ds-211a,217fm6d,2180v,2183m2184,2184v,2189m30.2044.33,218av,218cx,2190v,",
  "222cm222b.222b,222dm222b.222b.222b,222ev,222fm222e.222e,2230m222e.222e.222e,2231v,2329s+cdf,",
  "232bv,242ax,2440v,244bx,2460s-242f,2469m31.30,246am31.31,246bm31.32,246cm31.33,246dm31.34,",
  "246em31.35,246fm31.36,2470m31.37,2471m31.38,2472m31.39,2473m32.30,2474m28.31.29,2475m28.32.29,",
  "2476m28.33.29,2477m28.34.29,2478m28.35.29,2479m28.36.29,247am28.37.29,247bm28.38.29,",
  "247cm28.39.29,247dm28.31.30.29,247em28.31.31.29,247fm28.31.32.29,2480m28.31.33.29,",
  "2481m28.31.34.29,2482m28.31.35.29,2483m28.31.36.29,2484m28.31.37.29,2485m28.31.38.29,",
  "2486m28.31.39.29,2487m28.32.30.29,2488x,249cm28.61.29,249dm28.62.29,249em28.63.29,249fm28.64.29,",
  "24a0m28.65.29,24a1m28.66.29,24a2m28.67.29,24a3m28.68.29,24a4m28.69.29,24a5m28.6a.29,",
  "24a6m28.6b.29,24a7m28.6c.29,24a8m28.6d.29,24a9m28.6e.29,24aam28.6f.29,24abm28.70.29,",
  "24acm28.71.29,24adm28.72.29,24aem28.73.29,24afm28.74.29,24b0m28.75.29,24b1m28.76.29,",
  "24b2m28.77.29,24b3m28.78.29,24b4m28.79.29,24b5m28.7a.29,24b6s-2455,24d0s-246f,24eam30,24ebv,",
  "2a0cm222b.222b.222b.222b,2a0dv,2a74m3a.3a.3d,2a75m3d.3d,2a76m3d.3d.3d,2a77v,2adcm2add.338,2addv,",
  "2b74x,2b76v,2c00s+30,2c30v,2c60m2c61,2c61v,2c62m26b,2c63m1d7d,2c64m27d,2c65v,2c67m2c68,2c68v,",
  "2c69m2c6a,2c6av,2c6bm2c6c,2c6cv,2c6dm251,2c6em271,2c6fm250,2c70m252,2c71v,2c72m2c73,2c73v,",
  "2c75m2c76,2c76v,2c7cm6a,2c7dm76,2c7es-2a3f,2c80m2c81,2c81v,2c82m2c83,2c83v,2c84m2c85,2c85v,",
  "2c86m2c87,2c87v,2c88m2c89,2c89v,2c8am2c8b,2c8bv,2c8cm2c8d,2c8dv,2c8em2c8f,2c8fv,2c90m2c91,2c91v,",
  "2c92m2c93,2c93v,2c94m2c95,2c95v,2c96m2c97,2c97v,2c98m2c99,2c99v,2c9am2c9b,2c9bv,2c9cm2c9d,2c9dv,",
  "2c9em2c9f,2c9fv,2ca0m2ca1,2ca1v,2ca2m2ca3,2ca3v,2ca4m2ca5,2ca5v,2ca6m2ca7,2ca7v,2ca8m2ca9,2ca9v,",
  "2caam2cab,2cabv,2cacm2cad,2cadv,2caem2caf,2cafv,2cb0m2cb1,2cb1v,2cb2m2cb3,2cb3v,2cb4m2cb5,2cb5v,",
  "2cb6m2cb7,2cb7v,2cb8m2cb9,2cb9v,2cbam2cbb,2cbbv,2cbcm2cbd,2cbdv,2cbem2cbf,2cbfv,2cc0m2cc1,2cc1v,",
  "2cc2m2cc3,2cc3v,2cc4m2cc5,2cc5v,2cc6m2cc7,2cc7v,2cc8m2cc9,2cc9v,2ccam2ccb,2ccbv,2cccm2ccd,2ccdv,",
  "2ccem2ccf,2ccfv,2cd0m2cd1,2cd1v,2cd2m2cd3,2cd3v,2cd4m2cd5,2cd5v,2cd6m2cd7,2cd7v,2cd8m2cd9,2cd9v,",
  "2cdam2cdb,2cdbv,2cdcm2cdd,2cddv,2cdem2cdf,2cdfv,2ce0m2ce1,2ce1v,2ce2m2ce3,2ce3v,2cebm2cec,2cecv,",
  "2cedm2cee,2ceev,2cf2m2cf3,2cf3v,2cf4x,2cf9v,2d26x,2d27v,2d28x,2d2dv,2d2ex,2d30v,2d68x,2d6fm2d61,",
  "2d70v,2d71x,2d7fv,2d97x,2da0v,2da7x,2da8v,2dafx,2db0v,2db7x,2db8v,2dbfx,2dc0v,2dc7x,2dc8v,2dcfx,",
  "2dd0v,2dd7x,2dd8v,2ddfx,2de0v,2e5ex,2e80v,2e9ax,2e9bv,2e9fm6bcd,2ea0v,2ef3m9f9f,2ef4x,2f00m4e00,",
  "2f01m4e28,2f02m4e36,2f03m4e3f,2f04m4e59,2f05m4e85,2f06m4e8c,2f07m4ea0,2f08m4eba,2f09m513f,",
  "2f0am5165,2f0bm516b,2f0cm5182,2f0dm5196,2f0em51ab,2f0fm51e0,2f10m51f5,2f11m5200,2f12m529b,",
  "2f13m52f9,2f14m5315,2f15m531a,2f16m5338,2f17m5341,2f18m535c,2f19m5369,2f1am5382,2f1bm53b6,",
  "2f1cm53c8,2f1dm53e3,2f1em56d7,2f1fm571f,2f20m58eb,2f21m5902,2f22m590a,2f23m5915,2f24m5927,",
  "2f25m5973,2f26m5b50,2f27m5b80,2f28m5bf8,2f29m5c0f,2f2am5c22,2f2bm5c38,2f2cm5c6e,2f2dm5c71,",
  "2f2em5ddb,2f2fm5de5,2f30m5df1,2f31m5dfe,2f32m5e72,2f33m5e7a,2f34m5e7f,2f35m5ef4,2f36m5efe,",
  "2f37m5f0b,2f38m5f13,2f39m5f50,2f3am5f61,2f3bm5f73,2f3cm5fc3,2f3dm6208,2f3em6236,2f3fm624b,",
  "2f40m652f,2f41m6534,2f42m6587,2f43m6597,2f44m65a4,2f45m65b9,2f46m65e0,2f47m65e5,2f48m66f0,",
  "2f49m6708,2f4am6728,2f4bm6b20,2f4cm6b62,2f4dm6b79,2f4em6bb3,2f4fm6bcb,2f50m6bd4,2f51m6bdb,",
  "2f52m6c0f,2f53m6c14,2f54m6c34,2f55m706b,2f56m722a,2f57m7236,2f58m723b,2f59m723f,2f5am7247,",
  "2f5bm7259,2f5cm725b,2f5dm72ac,2f5em7384,2f5fm7389,2f60m74dc,2f61m74e6,2f62m7518,2f63m751f,",
  "2f64m7528,2f65m7530,2f66m758b,2f67m7592,2f68m7676,2f69m767d,2f6am76ae,2f6bm76bf,2f6cm76ee,",
  "2f6dm77db,2f6em77e2,2f6fm77f3,2f70m793a,2f71m79b8,2f72m79be,2f73m7a74,2f74m7acb,2f75m7af9,",
  "2f76m7c73,2f77m7cf8,2f78m7f36,2f79m7f51,2f7am7f8a,2f7bm7fbd,2f7cm8001,2f7dm800c,2f7em8012,",
  "2f7fm8033,2f80m807f,2f81m8089,2f82m81e3,2f83m81ea,2f84m81f3,2f85m81fc,2f86m820c,2f87m821b,",
  "2f88m821f,2f89m826e,2f8am8272,2f8bm8278,2f8cm864d,2f8dm866b,2f8em8840,2f8fm884c,2f90m8863,",
  "2f91m897e,2f92m898b,2f93m89d2,2f94m8a00,2f95m8c37,2f96m8c46,2f97m8c55,2f98m8c78,2f99m8c9d,",
  "2f9am8d64,2f9bm8d70,2f9cm8db3,2f9dm8eab,2f9em8eca,2f9fm8f9b,2fa0m8fb0,2fa1m8fb5,2fa2m9091,",
  "2fa3m9149,2fa4m91c6,2fa5m91cc,2fa6m91d1,2fa7m9577,2fa8m9580,2fa9m961c,2faam96b6,2fabm96b9,",
  "2facm96e8,2fadm9751,2faem975e,2fafm9762,2fb0m9769,2fb1m97cb,2fb2m97ed,2fb3m97f3,2fb4m9801,",
  "2fb5m98a8,2fb6m98db,2fb7m98df,2fb8m9996,2fb9m9999,2fbam99ac,2fbbm9aa8,2fbcm9ad8,2fbdm9adf,",
  "2fbem9b25,2fbfm9b2f,2fc0m9b32,2fc1m9b3c,2fc2m9b5a,2fc3m9ce5,2fc4m9e75,2fc5m9e7f,2fc6m9ea5,",
  "2fc7m9ebb,2fc8m9ec3,2fc9m9ecd,2fcam9ed1,2fcbm9ef9,2fccm9efd,2fcdm9f0e,2fcem9f13,2fcfm9f20,",
  "2fd0m9f3b,2fd1m9f4a,2fd2m9f52,2fd3m9f8d,2fd4m9f9c,2fd5m9fa0,2fd6x,3000m20,3001v,3002m2e,3003v,",
  "3036m3012,3037v,3038m5341,3039s+230b,303bv,3040x,3041v,3097x,3099v,309bm20.3099,309cm20.309a,",
  "309dv,309fm3088.308a,30a0v,30ffm30b3.30c8,3100x,3105v,3130x,3131s-2031,3133m11aa,3134m1102,",
  "3135s-1f89,3137s-2034,313as-1f8a,3140m111a,3141s-203b,3144m1121,3145s-203c,314fs-1fee,3164i,",
  "3165s-2051,3167s-1fa0,3169m11cc,316am11ce,316bm11d3,316cm11d7,316dm11d9,316em111c,316fm11dd,",
  "3170m11df,3171s-2054,3173m1120,3174s-2052,3176m1127,3177m1129,3178s-204d,317dm1132,317em1136,",
  "317fm1140,3180m1147,3181m114c,3182s-1f91,3184s-202d,3187s-2003,3189m1188,318as-1ff9,318cm1194,",
  "318dm119e,318em11a1,318fx,3190v,3192m4e00,3193m4e8c,3194m4e09,3195m56db,3196m4e0a,3197m4e2d,",
  "3198m4e0b,3199m7532,319am4e59,319bm4e19,319cm4e01,319dm5929,319em5730,319fm4eba,31a0v,31e6x,",
  "31f0v,3200m28.1100.29,3201m28.1102.29,3202m28.1103.29,3203m28.1105.29,3204m28.1106.29,",
  "3205m28.1107.29,3206m28.1109.29,3207m28.110b.29,3208m28.110c.29,3209m28.110e.29,320am28.110f.29,",
  "320bm28.1110.29,320cm28.1111.29,320dm28.1112.29,320em28.ac00.29,320fm28.b098.29,3210m28.b2e4.29,",
  "3211m28.b77c.29,3212m28.b9c8.29,3213m28.bc14.29,3214m28.c0ac.29,3215m28.c544.29,3216m28.c790.29,",
  "3217m28.cc28.29,3218m28.ce74.29,3219m28.d0c0.29,321am28.d30c.29,321bm28.d558.29,321cm28.c8fc.29,",
  "321dm28.c624.c804.29,321em28.c624.d6c4.29,321fx,3220m28.4e00.29,3221m28.4e8c.29,3222m28.4e09.29,",
  "3223m28.56db.29,3224m28.4e94.29,3225m28.516d.29,3226m28.4e03.29,3227m28.516b.29,3228m28.4e5d.29,",
  "3229m28.5341.29,322am28.6708.29,322bm28.706b.29,322cm28.6c34.29,322dm28.6728.29,322em28.91d1.29,",
  "322fm28.571f.29,3230m28.65e5.29,3231m28.682a.29,3232m28.6709.29,3233m28.793e.29,3234m28.540d.29,",
  "3235m28.7279.29,3236m28.8ca1.29,3237m28.795d.29,3238m28.52b4.29,3239m28.4ee3.29,323am28.547c.29,",
  "323bm28.5b66.29,323cm28.76e3.29,323dm28.4f01.29,323em28.8cc7.29,323fm28.5354.29,3240m28.796d.29,",
  "3241m28.4f11.29,3242m28.81ea.29,3243m28.81f3.29,3244m554f,3245m5e7c,3246m6587,3247m7b8f,3248v,",
  "3250m70.74.65,3251m32.31,3252m32.32,3253m32.33,3254m32.34,3255m32.35,3256m32.36,3257m32.37,",
  "3258m32.38,3259m32.39,325am33.30,325bm33.31,325cm33.32,325dm33.33,325em33.34,325fm33.35,",
  "3260m1100,3261s-215f,3263s-215e,3266m1109,3267s-215c,3269s-215b,326emac00,326fmb098,3270mb2e4,",
  "3271mb77c,3272mb9c8,3273mbc14,3274mc0ac,3275mc544,3276mc790,3277mcc28,3278mce74,3279md0c0,",
  "327amd30c,327bmd558,327cmcc38.ace0,327dmc8fc.c758,327emc6b0,327fv,3280m4e00,3281m4e8c,3282m4e09,",
  "3283m56db,3284m4e94,3285m516d,3286m4e03,3287m516b,3288m4e5d,3289m5341,328am6708,328bm706b,",
  "328cm6c34,328dm6728,328em91d1,328fm571f,3290m65e5,3291m682a,3292m6709,3293m793e,3294m540d,",
  "3295m7279,3296m8ca1,3297m795d,3298m52b4,3299m79d8,329am7537,329bm5973,329cm9069,329dm512a,",
  "329em5370,329fm6ce8,32a0m9805,32a1m4f11,32a2m5199,32a3m6b63,32a4m4e0a,32a5m4e2d,32a6m4e0b,",
  "32a7m5de6,32a8m53f3,32a9m533b,32aam5b97,32abm5b66,32acm76e3,32adm4f01,32aem8cc7,32afm5354,",
  "32b0m591c,32b1m33.36,32b2m33.37,32b3m33.38,32b4m33.39,32b5m34.30,32b6m34.31,32b7m34.32,",
  "32b8m34.33,32b9m34.34,32bam34.35,32bbm34.36,32bcm34.37,32bdm34.38,32bem34.39,32bfm35.30,",
  "32c0m31.6708,32c1m32.6708,32c2m33.6708,32c3m34.6708,32c4m35.6708,32c5m36.6708,32c6m37.6708,",
  "32c7m38.6708,32c8m39.6708,32c9m31.30.6708,32cam31.31.6708,32cbm31.32.6708,32ccm68.67,",
  "32cdm65.72.67,32cem65.76,32cfm6c.74.64,32d0m30a2,32d1m30a4,32d2m30a6,32d3m30a8,32d4s-22a,",
  "32d6m30ad,32d7m30af,32d8m30b1,32d9m30b3,32dam30b5,32dbm30b7,32dcm30b9,32ddm30bb,32dem30bd,",
  "32dfm30bf,32e0m30c1,32e1m30c4,32e2m30c6,32e3m30c8,32e4s-21a,32eam30d2,32ebm30d5,32ecm30d8,",
  "32edm30db,32ees-210,32f3m30e4,32f4m30e6,32f5s-20d,32fbs-20c,32ffm4ee4.548c,",
  "3300m30a2.30d1.30fc.30c8,3301m30a2.30eb.30d5.30a1,3302m30a2.30f3.30da.30a2,3303m30a2.30fc.30eb,",
  "3304m30a4.30cb.30f3.30b0,3305m30a4.30f3.30c1,3306m30a6.30a9.30f3,3307m30a8.30b9.30af.30fc.30c9,",
  "3308m30a8.30fc.30ab.30fc,3309m30aa.30f3.30b9,330am30aa.30fc.30e0,330bm30ab.30a4.30ea,",
  "330cm30ab.30e9.30c3.30c8,330dm30ab.30ed.30ea.30fc,330em30ac.30ed.30f3,330fm30ac.30f3.30de,",
  "3310m30ae.30ac,3311m30ae.30cb.30fc,3312m30ad.30e5.30ea.30fc,3313m30ae.30eb.30c0.30fc,",
  "3314m30ad.30ed,3315m30ad.30ed.30b0.30e9.30e0,3316m30ad.30ed.30e1.30fc.30c8.30eb,",
  "3317m30ad.30ed.30ef.30c3.30c8,3318m30b0.30e9.30e0,3319m30b0.30e9.30e0.30c8.30f3,",
  "331am30af.30eb.30bc.30a4.30ed,331bm30af.30ed.30fc.30cd,331cm30b1.30fc.30b9,331dm30b3.30eb.30ca,",
  "331em30b3.30fc.30dd,331fm30b5.30a4.30af.30eb,3320m30b5.30f3.30c1.30fc.30e0,",
  "3321m30b7.30ea.30f3.30b0,3322m30bb.30f3.30c1,3323m30bb.30f3.30c8,3324m30c0.30fc.30b9,",
  "3325m30c7.30b7,3326m30c9.30eb,3327m30c8.30f3,3328m30ca.30ce,3329m30ce.30c3.30c8,",
  "332am30cf.30a4.30c4,332bm30d1.30fc.30bb.30f3.30c8,332cm30d1.30fc.30c4,332dm30d0.30fc.30ec.30eb,",
  "332em30d4.30a2.30b9.30c8.30eb,332fm30d4.30af.30eb,3330m30d4.30b3,3331m30d3.30eb,",
  "3332m30d5.30a1.30e9.30c3.30c9,3333m30d5.30a3.30fc.30c8,3334m30d6.30c3.30b7.30a7.30eb,",
  "3335m30d5.30e9.30f3,3336m30d8.30af.30bf.30fc.30eb,3337m30da.30bd,3338m30da.30cb.30d2,",
  "3339m30d8.30eb.30c4,333am30da.30f3.30b9,333bm30da.30fc.30b8,333cm30d9.30fc.30bf,",
  "333dm30dd.30a4.30f3.30c8,333em30dc.30eb.30c8,333fm30db.30f3,3340m30dd.30f3.30c9,",
  "3341m30db.30fc.30eb,3342m30db.30fc.30f3,3343m30de.30a4.30af.30ed,3344m30de.30a4.30eb,",
  "3345m30de.30c3.30cf,3346m30de.30eb.30af,3347m30de.30f3.30b7.30e7.30f3,3348m30df.30af.30ed.30f3,",
  "3349m30df.30ea,334am30df.30ea.30d0.30fc.30eb,334bm30e1.30ac,334cm30e1.30ac.30c8.30f3,",
  "334dm30e1.30fc.30c8.30eb,334em30e4.30fc.30c9,334fm30e4.30fc.30eb,3350m30e6.30a2.30f3,",
  "3351m30ea.30c3.30c8.30eb,3352m30ea.30e9,3353m30eb.30d4.30fc,3354m30eb.30fc.30d6.30eb,",
  "3355m30ec.30e0,3356m30ec.30f3.30c8.30b2.30f3,3357m30ef.30c3.30c8,3358m30.70b9,3359m31.70b9,",
  "335am32.70b9,335bm33.70b9,335cm34.70b9,335dm35.70b9,335em36.70b9,335fm37.70b9,3360m38.70b9,",
  "3361m39.70b9,3362m31.30.70b9,3363m31.31.70b9,3364m31.32.70b9,3365m31.33.70b9,3366m31.34.70b9,",
  "3367m31.35.70b9,3368m31.36.70b9,3369m31.37.70b9,336am31.38.70b9,336bm31.39.70b9,336cm32.30.70b9,",
  "336dm32.31.70b9,336em32.32.70b9,336fm32.33.70b9,3370m32.34.70b9,3371m68.70.61,3372m64.61,",
  "3373m61.75,3374m62.61.72,3375m6f.76,3376m70.63,3377m64.6d,3378m64.6d.32,3379m64.6d.33,",
  "337am69.75,337bm5e73.6210,337cm662d.548c,337dm5927.6b63,337em660e.6cbb,337fm682a.5f0f.4f1a.793e,",
  "3380m70.61,3381m6e.61,3382m3bc.61,3383m6d.61,3384m6b.61,3385m6b.62,3386m6d.62,3387m67.62,",
  "3388m63.61.6c,3389m6b.63.61.6c,338am70.66,338bm6e.66,338cm3bc.66,338dm3bc.67,338em6d.67,",
  "338fm6b.67,3390m68.7a,3391m6b.68.7a,3392m6d.68.7a,3393m67.68.7a,3394m74.68.7a,3395m3bc.6c,",
  "3396m6d.6c,3397m64.6c,3398m6b.6c,3399m66.6d,339am6e.6d,339bm3bc.6d,339cm6d.6d,339dm63.6d,",
  "339em6b.6d,339fm6d.6d.32,33a0m63.6d.32,33a1m6d.32,33a2m6b.6d.32,33a3m6d.6d.33,33a4m63.6d.33,",
  "33a5m6d.33,33a6m6b.6d.33,33a7m6d.2215.73,33a8m6d.2215.73.32,33a9m70.61,33aam6b.70.61,",
  "33abm6d.70.61,33acm67.70.61,33adm72.61.64,33aem72.61.64.2215.73,33afm72.61.64.2215.73.32,",
  "33b0m70.73,33b1m6e.73,33b2m3bc.73,33b3m6d.73,33b4m70.76,33b5m6e.76,33b6m3bc.76,33b7m6d.76,",
  "33b8m6b.76,33b9m6d.76,33bam70.77,33bbm6e.77,33bcm3bc.77,33bdm6d.77,33bem6b.77,33bfm6d.77,",
  "33c0m6b.3c9,33c1m6d.3c9,33c2x,33c3m62.71,33c4m63.63,33c5m63.64,33c6m63.2215.6b.67,33c7x,",
  "33c8m64.62,33c9m67.79,33cam68.61,33cbm68.70,33ccm69.6e,33cdm6b.6b,33cem6b.6d,33cfm6b.74,",
  "33d0m6c.6d,33d1m6c.6e,33d2m6c.6f.67,33d3m6c.78,33d4m6d.62,33d5m6d.69.6c,33d6m6d.6f.6c,",
  "33d7m70.68,33d8x,33d9m70.70.6d,33dam70.72,33dbm73.72,33dcm73.76,33ddm77.62,33dem76.2215.6d,",
  "33dfm61.2215.6d,33e0m31.65e5,33e1m32.65e5,33e2m33.65e5,33e3m34.65e5,33e4m35.65e5,33e5m36.65e5,",
  "33e6m37.65e5,33e7m38.65e5,33e8m39.65e5,33e9m31.30.65e5,33eam31.31.65e5,33ebm31.32.65e5,",
  "33ecm31.33.65e5,33edm31.34.65e5,33eem31.35.65e5,33efm31.36.65e5,33f0m31.37.65e5,33f1m31.38.65e5,",
  "33f2m31.39.65e5,33f3m32.30.65e5,33f4m32.31.65e5,33f5m32.32.65e5,33f6m32.33.65e5,33f7m32.34.65e5,",
  "33f8m32.35.65e5,33f9m32.36.65e5,33fam32.37.65e5,33fbm32.38.65e5,33fcm32.39.65e5,33fdm33.30.65e5,",
  "33fem33.31.65e5,33ffm67.61.6c,3400v,a48dx,a490v,a4c7x,a4d0v,a62cx,a640ma641,a641v,a642ma643,",
  "a643v,a644ma645,a645v,a646ma647,a647v,a648ma649,a649v,a64ama64b,a64bv,a64cma64d,a64dv,a64ema64f,",
  "a64fv,a650ma651,a651v,a652ma653,a653v,a654ma655,a655v,a656ma657,a657v,a658ma659,a659v,a65ama65b,",
  "a65bv,a65cma65d,a65dv,a65ema65f,a65fv,a660ma661,a661v,a662ma663,a663v,a664ma665,a665v,a666ma667,",
  "a667v,a668ma669,a669v,a66ama66b,a66bv,a66cma66d,a66dv,a680ma681,a681v,a682ma683,a683v,a684ma685,",
  "a685v,a686ma687,a687v,a688ma689,a689v,a68ama68b,a68bv,a68cma68d,a68dv,a68ema68f,a68fv,a690ma691,",
  "a691v,a692ma693,a693v,a694ma695,a695v,a696ma697,a697v,a698ma699,a699v,a69ama69b,a69bv,a69cm44a,",
  "a69dm44c,a69ev,a6f8x,a700v,a722ma723,a723v,a724ma725,a725v,a726ma727,a727v,a728ma729,a729v,",
  "a72ama72b,a72bv,a72cma72d,a72dv,a72ema72f,a72fv,a732ma733,a733v,a734ma735,a735v,a736ma737,a737v,",
  "a738ma739,a739v,a73ama73b,a73bv,a73cma73d,a73dv,a73ema73f,a73fv,a740ma741,a741v,a742ma743,a743v,",
  "a744ma745,a745v,a746ma747,a747v,a748ma749,a749v,a74ama74b,a74bv,a74cma74d,a74dv,a74ema74f,a74fv,",
  "a750ma751,a751v,a752ma753,a753v,a754ma755,a755v,a756ma757,a757v,a758ma759,a759v,a75ama75b,a75bv,",
  "a75cma75d,a75dv,a75ema75f,a75fv,a760ma761,a761v,a762ma763,a763v,a764ma765,a765v,a766ma767,a767v,",
  "a768ma769,a769v,a76ama76b,a76bv,a76cma76d,a76dv,a76ema76f,a76fv,a770ma76f,a771v,a779ma77a,a77av,",
  "a77bma77c,a77cv,a77dm1d79,a77ema77f,a77fv,a780ma781,a781v,a782ma783,a783v,a784ma785,a785v,",
  "a786ma787,a787v,a78bma78c,a78cv,a78dm265,a78ev,a790ma791,a791v,a792ma793,a793v,a796ma797,a797v,",
  "a798ma799,a799v,a79ama79b,a79bv,a79cma79d,a79dv,a79ema79f,a79fv,a7a0ma7a1,a7a1v,a7a2ma7a3,a7a3v,",
  "a7a4ma7a5,a7a5v,a7a6ma7a7,a7a7v,a7a8ma7a9,a7a9v,a7aam266,a7abm25c,a7acm261,a7adm26c,a7aem26a,",
  "a7afv,a7b0m29e,a7b1m287,a7b2m29d,a7b3mab53,a7b4ma7b5,a7b5v,a7b6ma7b7,a7b7v,a7b8ma7b9,a7b9v,",
  "a7bama7bb,a7bbv,a7bcma7bd,a7bdv,a7bema7bf,a7bfv,a7c0ma7c1,a7c1v,a7c2ma7c3,a7c3v,a7c4ma794,",
  "a7c5m282,a7c6m1d8e,a7c7ma7c8,a7c8v,a7c9ma7ca,a7cav,a7cbm264,a7ccma7cd,a7cdv,a7cema7cf,a7cfv,",
  "a7d0ma7d1,a7d1v,a7d2ma7d3,a7d3v,a7d4ma7d5,a7d5v,a7d6ma7d7,a7d7v,a7d8ma7d9,a7d9v,a7dama7db,a7dbv,",
  "a7dcm19b,a7ddx,a7f1m73,a7f2m63,a7f3m66,a7f4m71,a7f5ma7f6,a7f6v,a7f8m127,a7f9m153,a7fav,a82dx,",
  "a830v,a83ax,a840v,a878x,a880v,a8c6x,a8cev,a8dax,a8e0v,a954x,a95fv,a97dx,a980v,a9cex,a9cfv,a9dax,",
  "a9dev,a9ffx,aa00v,aa37x,aa40v,aa4ex,aa50v,aa5ax,aa5cv,aac3x,aadbv,aaf7x,ab01v,ab07x,ab09v,ab0fx,",
  "ab11v,ab17x,ab20v,ab27x,ab28v,ab2fx,ab30v,ab5cma727,ab5dmab37,ab5em26b,ab5fmab52,ab60v,ab69m28d,",
  "ab6av,ab6cx,ab70s-97d0,abc0v,abeex,abf0v,abfax,ac00v,d7a4x,d7b0v,d7c7x,d7cbv,d7fcx,f900m8c48,",
  "f901m66f4,f902m8eca,f903m8cc8,f904m6ed1,f905m4e32,f906m53e5,f907m9f9c,f909m5951,f90am91d1,",
  "f90bm5587,f90cm5948,f90dm61f6,f90em7669,f90fm7f85,f910m863f,f911m87ba,f912m88f8,f913m908f,",
  "f914m6a02,f915m6d1b,f916m70d9,f917m73de,f918m843d,f919m916a,f91am99f1,f91bm4e82,f91cm5375,",
  "f91dm6b04,f91em721b,f91fm862d,f920m9e1e,f921m5d50,f922m6feb,f923m85cd,f924m8964,f925m62c9,",
  "f926m81d8,f927m881f,f928m5eca,f929m6717,f92am6d6a,f92bm72fc,f92cm90ce,f92dm4f86,f92em51b7,",
  "f92fm52de,f930m64c4,f931m6ad3,f932m7210,f933m76e7,f934m8001,f935m8606,f936m865c,f937m8def,",
  "f938m9732,f939m9b6f,f93am9dfa,f93bm788c,f93cm797f,f93dm7da0,f93em83c9,f93fm9304,f940m9e7f,",
  "f941m8ad6,f942m58df,f943m5f04,f944m7c60,f945m807e,f946m7262,f947m78ca,f948m8cc2,f949m96f7,",
  "f94am58d8,f94bm5c62,f94cm6a13,f94dm6dda,f94em6f0f,f94fm7d2f,f950m7e37,f951m964b,f952m52d2,",
  "f953m808b,f954m51dc,f955m51cc,f956m7a1c,f957m7dbe,f958m83f1,f959m9675,f95am8b80,f95bm62cf,",
  "f95cm6a02,f95dm8afe,f95em4e39,f95fm5be7,f960m6012,f961m7387,f962m7570,f963m5317,f964m78fb,",
  "f965m4fbf,f966m5fa9,f967m4e0d,f968m6ccc,f969m6578,f96am7d22,f96bm53c3,f96cm585e,f96dm7701,",
  "f96em8449,f96fm8aaa,f970m6bba,f971m8fb0,f972m6c88,f973m62fe,f974m82e5,f975m63a0,f976m7565,",
  "f977m4eae,f978m5169,f979m51c9,f97am6881,f97bm7ce7,f97cm826f,f97dm8ad2,f97em91cf,f97fm52f5,",
  "f980m5442,f981m5973,f982m5eec,f983m65c5,f984m6ffe,f985m792a,f986m95ad,f987m9a6a,f988m9e97,",
  "f989m9ece,f98am529b,f98bm66c6,f98cm6b77,f98dm8f62,f98em5e74,f98fm6190,f990m6200,f991m649a,",
  "f992m6f23,f993m7149,f994m7489,f995m79ca,f996m7df4,f997m806f,f998m8f26,f999m84ee,f99am9023,",
  "f99bm934a,f99cm5217,f99dm52a3,f99em54bd,f99fm70c8,f9a0m88c2,f9a1m8aaa,f9a2m5ec9,f9a3m5ff5,",
  "f9a4m637b,f9a5m6bae,f9a6m7c3e,f9a7m7375,f9a8m4ee4,f9a9m56f9,f9aam5be7,f9abm5dba,f9acm601c,",
  "f9adm73b2,f9aem7469,f9afm7f9a,f9b0m8046,f9b1m9234,f9b2m96f6,f9b3m9748,f9b4m9818,f9b5m4f8b,",
  "f9b6m79ae,f9b7m91b4,f9b8m96b8,f9b9m60e1,f9bam4e86,f9bbm50da,f9bcm5bee,f9bdm5c3f,f9bem6599,",
  "f9bfm6a02,f9c0m71ce,f9c1m7642,f9c2m84fc,f9c3m907c,f9c4m9f8d,f9c5m6688,f9c6m962e,f9c7m5289,",
  "f9c8m677b,f9c9m67f3,f9cam6d41,f9cbm6e9c,f9ccm7409,f9cdm7559,f9cem786b,f9cfm7d10,f9d0m985e,",
  "f9d1m516d,f9d2m622e,f9d3m9678,f9d4m502b,f9d5m5d19,f9d6m6dea,f9d7m8f2a,f9d8m5f8b,f9d9m6144,",
  "f9dam6817,f9dbm7387,f9dcm9686,f9ddm5229,f9dem540f,f9dfm5c65,f9e0m6613,f9e1m674e,f9e2m68a8,",
  "f9e3m6ce5,f9e4m7406,f9e5m75e2,f9e6m7f79,f9e7m88cf,f9e8m88e1,f9e9m91cc,f9eam96e2,f9ebm533f,",
  "f9ecm6eba,f9edm541d,f9eem71d0,f9efm7498,f9f0m85fa,f9f1m96a3,f9f2m9c57,f9f3m9e9f,f9f4m6797,",
  "f9f5m6dcb,f9f6m81e8,f9f7m7acb,f9f8m7b20,f9f9m7c92,f9fam72c0,f9fbm7099,f9fcm8b58,f9fdm4ec0,",
  "f9fem8336,f9ffm523a,fa00m5207,fa01m5ea6,fa02m62d3,fa03m7cd6,fa04m5b85,fa05m6d1e,fa06m66b4,",
  "fa07m8f3b,fa08m884c,fa09m964d,fa0am898b,fa0bm5ed3,fa0cm5140,fa0dm55c0,fa0ev,fa10m585a,fa11v,",
  "fa12m6674,fa13v,fa15m51de,fa16m732a,fa17m76ca,fa18m793c,fa19m795e,fa1am7965,fa1bm798f,fa1cm9756,",
  "fa1dm7cbe,fa1em7fbd,fa1fv,fa20m8612,fa21v,fa22m8af8,fa23v,fa25m9038,fa26m90fd,fa27v,fa2am98ef,",
  "fa2bm98fc,fa2cm9928,fa2dm9db4,fa2em90de,fa2fm96b7,fa30m4fae,fa31m50e7,fa32m514d,fa33m52c9,",
  "fa34m52e4,fa35m5351,fa36m559d,fa37m5606,fa38m5668,fa39m5840,fa3am58a8,fa3bm5c64,fa3cm5c6e,",
  "fa3dm6094,fa3em6168,fa3fm618e,fa40m61f2,fa41m654f,fa42m65e2,fa43m6691,fa44m6885,fa45m6d77,",
  "fa46m6e1a,fa47m6f22,fa48m716e,fa49m722b,fa4am7422,fa4bm7891,fa4cm793e,fa4dm7949,fa4em7948,",
  "fa4fm7950,fa50m7956,fa51m795d,fa52s-80c5,fa54m7a40,fa55m7a81,fa56m7bc0,fa57m7df4,fa58m7e09,",
  "fa59m7e41,fa5am7f72,fa5bm8005,fa5cm81ed,fa5dm8279,fa5fm8457,fa60m8910,fa61m8996,fa62m8b01,",
  "fa63m8b39,fa64m8cd3,fa65m8d08,fa66m8fb6,fa67m9038,fa68m96e3,fa69m97ff,fa6am983b,fa6bm6075,",
  "fa6cm242ee,fa6dm8218,fa6ex,fa70m4e26,fa71m51b5,fa72m5168,fa73m4f80,fa74m5145,fa75m5180,",
  "fa76m52c7,fa77m52fa,fa78m559d,fa79m5555,fa7am5599,fa7bm55e2,fa7cm585a,fa7dm58b3,fa7em5944,",
  "fa7fm5954,fa80m5a62,fa81m5b28,fa82m5ed2,fa83m5ed9,fa84m5f69,fa85m5fad,fa86m60d8,fa87m614e,",
  "fa88m6108,fa89m618e,fa8am6160,fa8bm61f2,fa8cm6234,fa8dm63c4,fa8em641c,fa8fm6452,fa90m6556,",
  "fa91m6674,fa92m6717,fa93m671b,fa94m6756,fa95m6b79,fa96m6bba,fa97m6d41,fa98m6edb,fa99m6ecb,",
  "fa9am6f22,fa9bm701e,fa9cm716e,fa9dm77a7,fa9em7235,fa9fm72af,faa0m732a,faa1m7471,faa2m7506,",
  "faa3m753b,faa4m761d,faa5m761f,faa6m76ca,faa7m76db,faa8m76f4,faa9m774a,faaam7740,faabm78cc,",
  "faacm7ab1,faadm7bc0,faaem7c7b,faafm7d5b,fab0m7df4,fab1m7f3e,fab2m8005,fab3m8352,fab4m83ef,",
  "fab5m8779,fab6m8941,fab7m8986,fab8m8996,fab9m8abf,fabam8af8,fabbm8acb,fabcm8b01,fabdm8afe,",
  "fabem8aed,fabfm8b39,fac0m8b8a,fac1m8d08,fac2m8f38,fac3m9072,fac4m9199,fac5m9276,fac6m967c,",
  "fac7m96e3,fac8m9756,fac9m97db,facam97ff,facbm980b,faccm983b,facdm9b12,facem9f9c,facfm2284a,",
  "fad0m22844,fad1m233d5,fad2m3b9d,fad3m4018,fad4m4039,fad5m25249,fad6m25cd0,fad7m27ed3,fad8m9f43,",
  "fad9m9f8e,fadax,fb00m66.66,fb01m66.69,fb02m66.6c,fb03m66.66.69,fb04m66.66.6c,fb05m73.74,fb07x,",
  "fb13m574.576,fb14m574.565,fb15m574.56b,fb16m57e.576,fb17m574.56d,fb18x,fb1dm5d9.5b4,fb1ev,",
  "fb1fm5f2.5b7,fb20m5e2,fb21m5d0,fb22s-f54f,fb24s-f549,fb27m5e8,fb28m5ea,fb29m2b,fb2am5e9.5c1,",
  "fb2bm5e9.5c2,fb2cm5e9.5bc.5c1,fb2dm5e9.5bc.5c2,fb2em5d0.5b7,fb2fm5d0.5b8,fb30m5d0.5bc,",
  "fb31m5d1.5bc,fb32m5d2.5bc,fb33m5d3.5bc,fb34m5d4.5bc,fb35m5d5.5bc,fb36m5d6.5bc,fb37x,",
  "fb38m5d8.5bc,fb39m5d9.5bc,fb3am5da.5bc,fb3bm5db.5bc,fb3cm5dc.5bc,fb3dx,fb3em5de.5bc,fb3fx,",
  "fb40m5e0.5bc,fb41m5e1.5bc,fb42x,fb43m5e3.5bc,fb44m5e4.5bc,fb45x,fb46m5e6.5bc,fb47m5e7.5bc,",
  "fb48m5e8.5bc,fb49m5e9.5bc,fb4am5ea.5bc,fb4bm5d5.5b9,fb4cm5d1.5bf,fb4dm5db.5bf,fb4em5e4.5bf,",
  "fb4fm5d0.5dc,fb50m671,fb52m67b,fb56m67e,fb5am680,fb5em67a,fb62m67f,fb66m679,fb6am6a4,fb6em6a6,",
  "fb72m684,fb76m683,fb7am686,fb7em687,fb82m68d,fb84m68c,fb86m68e,fb88m688,fb8am698,fb8cm691,",
  "fb8em6a9,fb92m6af,fb96m6b3,fb9am6b1,fb9em6ba,fba0m6bb,fba4m6c0,fba6m6c1,fbaam6be,fbaem6d2,",
  "fbb0m6d3,fbb2v,fbd3m6ad,fbd7m6c7,fbd9m6c6,fbdbm6c8,fbddm6c7.674,fbdem6cb,fbe0m6c5,fbe2m6c9,",
  "fbe4m6d0,fbe8m649,fbeam626.627,fbecm626.6d5,fbeem626.648,fbf0m626.6c7,fbf2m626.6c6,fbf4m626.6c8,",
  "fbf6m626.6d0,fbf9m626.649,fbfcm6cc,fc00m626.62c,fc01m626.62d,fc02m626.645,fc03m626.649,",
  "fc04m626.64a,fc05m628.62c,fc06m628.62d,fc07m628.62e,fc08m628.645,fc09m628.649,fc0am628.64a,",
  "fc0bm62a.62c,fc0cm62a.62d,fc0dm62a.62e,fc0em62a.645,fc0fm62a.649,fc10m62a.64a,fc11m62b.62c,",
  "fc12m62b.645,fc13m62b.649,fc14m62b.64a,fc15m62c.62d,fc16m62c.645,fc17m62d.62c,fc18m62d.645,",
  "fc19m62e.62c,fc1am62e.62d,fc1bm62e.645,fc1cm633.62c,fc1dm633.62d,fc1em633.62e,fc1fm633.645,",
  "fc20m635.62d,fc21m635.645,fc22m636.62c,fc23m636.62d,fc24m636.62e,fc25m636.645,fc26m637.62d,",
  "fc27m637.645,fc28m638.645,fc29m639.62c,fc2am639.645,fc2bm63a.62c,fc2cm63a.645,fc2dm641.62c,",
  "fc2em641.62d,fc2fm641.62e,fc30m641.645,fc31m641.649,fc32m641.64a,fc33m642.62d,fc34m642.645,",
  "fc35m642.649,fc36m642.64a,fc37m643.627,fc38m643.62c,fc39m643.62d,fc3am643.62e,fc3bm643.644,",
  "fc3cm643.645,fc3dm643.649,fc3em643.64a,fc3fm644.62c,fc40m644.62d,fc41m644.62e,fc42m644.645,",
  "fc43m644.649,fc44m644.64a,fc45m645.62c,fc46m645.62d,fc47m645.62e,fc48m645.645,fc49m645.649,",
  "fc4am645.64a,fc4bm646.62c,fc4cm646.62d,fc4dm646.62e,fc4em646.645,fc4fm646.649,fc50m646.64a,",
  "fc51m647.62c,fc52m647.645,fc53m647.649,fc54m647.64a,fc55m64a.62c,fc56m64a.62d,fc57m64a.62e,",
  "fc58m64a.645,fc59m64a.649,fc5am64a.64a,fc5bm630.670,fc5cm631.670,fc5dm649.670,fc5em20.64c.651,",
  "fc5fm20.64d.651,fc60m20.64e.651,fc61m20.64f.651,fc62m20.650.651,fc63m20.651.670,fc64m626.631,",
  "fc65m626.632,fc66m626.645,fc67m626.646,fc68m626.649,fc69m626.64a,fc6am628.631,fc6bm628.632,",
  "fc6cm628.645,fc6dm628.646,fc6em628.649,fc6fm628.64a,fc70m62a.631,fc71m62a.632,fc72m62a.645,",
  "fc73m62a.646,fc74m62a.649,fc75m62a.64a,fc76m62b.631,fc77m62b.632,fc78m62b.645,fc79m62b.646,",
  "fc7am62b.649,fc7bm62b.64a,fc7cm641.649,fc7dm641.64a,fc7em642.649,fc7fm642.64a,fc80m643.627,",
  "fc81m643.644,fc82m643.645,fc83m643.649,fc84m643.64a,fc85m644.645,fc86m644.649,fc87m644.64a,",
  "fc88m645.627,fc89m645.645,fc8am646.631,fc8bm646.632,fc8cm646.645,fc8dm646.646,fc8em646.649,",
  "fc8fm646.64a,fc90m649.670,fc91m64a.631,fc92m64a.632,fc93m64a.645,fc94m64a.646,fc95m64a.649,",
  "fc96m64a.64a,fc97m626.62c,fc98m626.62d,fc99m626.62e,fc9am626.645,fc9bm626.647,fc9cm628.62c,",
  "fc9dm628.62d,fc9em628.62e,fc9fm628.645,fca0m628.647,fca1m62a.62c,fca2m62a.62d,fca3m62a.62e,",
  "fca4m62a.645,fca5m62a.647,fca6m62b.645,fca7m62c.62d,fca8m62c.645,fca9m62d.62c,fcaam62d.645,",
  "fcabm62e.62c,fcacm62e.645,fcadm633.62c,fcaem633.62d,fcafm633.62e,fcb0m633.645,fcb1m635.62d,",
  "fcb2m635.62e,fcb3m635.645,fcb4m636.62c,fcb5m636.62d,fcb6m636.62e,fcb7m636.645,fcb8m637.62d,",
  "fcb9m638.645,fcbam639.62c,fcbbm639.645,fcbcm63a.62c,fcbdm63a.645,fcbem641.62c,fcbfm641.62d,",
  "fcc0m641.62e,fcc1m641.645,fcc2m642.62d,fcc3m642.645,fcc4m643.62c,fcc5m643.62d,fcc6m643.62e,",
  "fcc7m643.644,fcc8m643.645,fcc9m644.62c,fccam644.62d,fccbm644.62e,fcccm644.645,fccdm644.647,",
  "fccem645.62c,fccfm645.62d,fcd0m645.62e,fcd1m645.645,fcd2m646.62c,fcd3m646.62d,fcd4m646.62e,",
  "fcd5m646.645,fcd6m646.647,fcd7m647.62c,fcd8m647.645,fcd9m647.670,fcdam64a.62c,fcdbm64a.62d,",
  "fcdcm64a.62e,fcddm64a.645,fcdem64a.647,fcdfm626.645,fce0m626.647,fce1m628.645,fce2m628.647,",
  "fce3m62a.645,fce4m62a.647,fce5m62b.645,fce6m62b.647,fce7m633.645,fce8m633.647,fce9m634.645,",
  "fceam634.647,fcebm643.644,fcecm643.645,fcedm644.645,fceem646.645,fcefm646.647,fcf0m64a.645,",
  "fcf1m64a.647,fcf2m640.64e.651,fcf3m640.64f.651,fcf4m640.650.651,fcf5m637.649,fcf6m637.64a,",
  "fcf7m639.649,fcf8m639.64a,fcf9m63a.649,fcfam63a.64a,fcfbm633.649,fcfcm633.64a,fcfdm634.649,",
  "fcfem634.64a,fcffm62d.649,fd00m62d.64a,fd01m62c.649,fd02m62c.64a,fd03m62e.649,fd04m62e.64a,",
  "fd05m635.649,fd06m635.64a,fd07m636.649,fd08m636.64a,fd09m634.62c,fd0am634.62d,fd0bm634.62e,",
  "fd0cm634.645,fd0dm634.631,fd0em633.631,fd0fm635.631,fd10m636.631,fd11m637.649,fd12m637.64a,",
  "fd13m639.649,fd14m639.64a,fd15m63a.649,fd16m63a.64a,fd17m633.649,fd18m633.64a,fd19m634.649,",
  "fd1am634.64a,fd1bm62d.649,fd1cm62d.64a,fd1dm62c.649,fd1em62c.64a,fd1fm62e.649,fd20m62e.64a,",
  "fd21m635.649,fd22m635.64a,fd23m636.649,fd24m636.64a,fd25m634.62c,fd26m634.62d,fd27m634.62e,",
  "fd28m634.645,fd29m634.631,fd2am633.631,fd2bm635.631,fd2cm636.631,fd2dm634.62c,fd2em634.62d,",
  "fd2fm634.62e,fd30m634.645,fd31m633.647,fd32m634.647,fd33m637.645,fd34m633.62c,fd35m633.62d,",
  "fd36m633.62e,fd37m634.62c,fd38m634.62d,fd39m634.62e,fd3am637.645,fd3bm638.645,fd3cm627.64b,",
  "fd3ev,fd50m62a.62c.645,fd51m62a.62d.62c,fd53m62a.62d.645,fd54m62a.62e.645,fd55m62a.645.62c,",
  "fd56m62a.645.62d,fd57m62a.645.62e,fd58m62c.645.62d,fd5am62d.645.64a,fd5bm62d.645.649,",
  "fd5cm633.62d.62c,fd5dm633.62c.62d,fd5em633.62c.649,fd5fm633.645.62d,fd61m633.645.62c,",
  "fd62m633.645.645,fd64m635.62d.62d,fd66m635.645.645,fd67m634.62d.645,fd69m634.62c.64a,",
  "fd6am634.645.62e,fd6cm634.645.645,fd6em636.62d.649,fd6fm636.62e.645,fd71m637.645.62d,",
  "fd73m637.645.645,fd74m637.645.64a,fd75m639.62c.645,fd76m639.645.645,fd78m639.645.649,",
  "fd79m63a.645.645,fd7am63a.645.64a,fd7bm63a.645.649,fd7cm641.62e.645,fd7em642.645.62d,",
  "fd7fm642.645.645,fd80m644.62d.645,fd81m644.62d.64a,fd82m644.62d.649,fd83m644.62c.62c,",
  "fd85m644.62e.645,fd87m644.645.62d,fd89m645.62d.62c,fd8am645.62d.645,fd8bm645.62d.64a,",
  "fd8cm645.62c.62d,fd8dm645.62c.645,fd8em645.62e.62c,fd8fm645.62e.645,fd90v,fd92m645.62c.62e,",
  "fd93m647.645.62c,fd94m647.645.645,fd95m646.62d.645,fd96m646.62d.649,fd97m646.62c.645,",
  "fd99m646.62c.649,fd9am646.645.64a,fd9bm646.645.649,fd9cm64a.645.645,fd9em628.62e.64a,",
  "fd9fm62a.62c.64a,fda0m62a.62c.649,fda1m62a.62e.64a,fda2m62a.62e.649,fda3m62a.645.64a,",
  "fda4m62a.645.649,fda5m62c.645.64a,fda6m62c.62d.649,fda7m62c.645.649,fda8m633.62e.649,",
  "fda9m635.62d.64a,fdaam634.62d.64a,fdabm636.62d.64a,fdacm644.62c.64a,fdadm644.645.64a,",
  "fdaem64a.62d.64a,fdafm64a.62c.64a,fdb0m64a.645.64a,fdb1m645.645.64a,fdb2m642.645.64a,",
  "fdb3m646.62d.64a,fdb4m642.645.62d,fdb5m644.62d.645,fdb6m639.645.64a,fdb7m643.645.64a,",
  "fdb8m646.62c.62d,fdb9m645.62e.64a,fdbam644.62c.645,fdbbm643.645.645,fdbcm644.62c.645,",
  "fdbdm646.62c.62d,fdbem62c.62d.64a,fdbfm62d.62c.64a,fdc0m645.62c.64a,fdc1m641.645.64a,",
  "fdc2m628.62d.64a,fdc3m643.645.645,fdc4m639.62c.645,fdc5m635.645.645,fdc6m633.62e.64a,",
  "fdc7m646.62c.64a,fdc8v,fdd0x,fdf0m635.644.6d2,fdf1m642.644.6d2,fdf2m627.644.644.647,",
  "fdf3m627.643.628.631,fdf4m645.62d.645.62f,fdf5m635.644.639.645,fdf6m631.633.648.644,",
  "fdf7m639.644.64a.647,fdf8m648.633.644.645,fdf9m635.644.649,",
  "fdfam635.644.649.20.627.644.644.647.20.639.644.64a.647.20.648.633.644.645,",
  "fdfbm62c.644.20.62c.644.627.644.647,fdfcm631.6cc.627.644,fdfdv,fe00i,fe10m2c,fe11m3001,fe12x,",
  "fe13s-fdd9,fe15m21,fe16m3f,fe17s-ce01,fe19x,fe20v,fe30x,fe31m2014,fe32m2013,fe33m5f,fe35s-fe0d,",
  "fe37m7b,fe38m7d,fe39s-ce25,fe3bs-ce2b,fe3ds-ce33,fe3fs-ce37,fe41s-ce35,fe45v,fe47m5b,fe48m5d,",
  "fe49m20.305,fe4dm5f,fe50m2c,fe51m3001,fe52x,fe54m3b,fe55m3a,fe56m3f,fe57m21,fe58m2014,",
  "fe59s-fe31,fe5bm7b,fe5cm7d,fe5ds-ce49,fe5fm23,fe60m26,fe61s-fe37,fe63m2d,fe64m3c,fe65m3e,",
  "fe66m3d,fe67x,fe68m5c,fe69s-fe45,fe6bm40,fe6cx,fe70m20.64b,fe71m640.64b,fe72m20.64c,fe73v,",
  "fe74m20.64d,fe75x,fe76m20.64e,fe77m640.64e,fe78m20.64f,fe79m640.64f,fe7am20.650,fe7bm640.650,",
  "fe7cm20.651,fe7dm640.651,fe7em20.652,fe7fm640.652,fe80m621,fe81m622,fe83m623,fe85m624,fe87m625,",
  "fe89m626,fe8dm627,fe8fm628,fe93m629,fe95m62a,fe99m62b,fe9dm62c,fea1m62d,fea5m62e,fea9m62f,",
  "feabm630,feadm631,feafm632,feb1m633,feb5m634,feb9m635,febdm636,fec1m637,fec5m638,fec9m639,",
  "fecdm63a,fed1m641,fed5m642,fed9m643,feddm644,fee1m645,fee5m646,fee9m647,feedm648,feefm649,",
  "fef1m64a,fef5m644.622,fef7m644.623,fef9m644.625,fefbm644.627,fefdx,feffi,ff00x,ff01s-fee0,",
  "ff21s-fec0,ff3bs-fee0,ff5fs-d5da,ff61m2e,ff62s-cf56,ff64m3001,ff65m30fb,ff66m30f2,ff67m30a1,",
  "ff68m30a3,ff69m30a5,ff6am30a7,ff6bm30a9,ff6cm30e3,ff6dm30e5,ff6em30e7,ff6fm30c3,ff70m30fc,",
  "ff71m30a2,ff72m30a4,ff73m30a6,ff74m30a8,ff75s-cecb,ff77m30ad,ff78m30af,ff79m30b1,ff7am30b3,",
  "ff7bm30b5,ff7cm30b7,ff7dm30b9,ff7em30bb,ff7fm30bd,ff80m30bf,ff81m30c1,ff82m30c4,ff83m30c6,",
  "ff84m30c8,ff85s-cebb,ff8bm30d2,ff8cm30d5,ff8dm30d8,ff8em30db,ff8fs-ceb1,ff94m30e4,ff95m30e6,",
  "ff96s-ceae,ff9cm30ef,ff9dm30f3,ff9es-cf05,ffa0i,ffa1s-eea1,ffa3m11aa,ffa4m1102,ffa5s-edf9,",
  "ffa7s-eea4,ffaas-edfa,ffb0m111a,ffb1s-eeab,ffb4m1121,ffb5s-eeac,ffbfx,ffc2s-ee61,ffc8x,",
  "ffcas-ee63,ffd0x,ffd2s-ee65,ffd8x,ffdas-ee67,ffddx,ffe0s-ff3e,ffe2mac,ffe3m20.304,ffe4ma6,",
  "ffe5ma5,ffe6m20a9,ffe7x,ffe8m2502,ffe9s-de59,ffedm25a0,ffeem25cb,ffefx,10000v,1000cx,1000dv,",
  "10027x,10028v,1003bx,1003cv,1003ex,1003fv,1004ex,10050v,1005ex,10080v,100fbx,10100v,10103x,",
  "10107v,10134x,10137v,1018fx,10190v,1019dx,101a0v,101a1x,101d0v,101fex,10280v,1029dx,102a0v,",
  "102d1x,102e0v,102fcx,10300v,10324x,1032dv,1034bx,10350v,1037bx,10380v,1039ex,1039fv,103c4x,",
  "103c8v,103d6x,10400s+28,10428v,1049ex,104a0v,104aax,104b0s+28,104d4x,104d8v,104fcx,10500v,",
  "10528x,10530v,10564x,1056fv,10570s+27,1057bx,1057cs+27,1058bx,1058cs+27,10593x,10594s+27,10596x,",
  "10597v,105a2x,105a3v,105b2x,105b3v,105bax,105bbv,105bdx,105c0v,105f4x,10600v,10737x,10740v,",
  "10756x,10760v,10768x,10780v,10781s-104b1,10783me6,10784m299,10785m253,10786x,10787m2a3,",
  "10788mab66,10789m2a5,1078am2a4,1078bs-10535,1078dm1d91,1078em258,1078fm25e,10790m2a9,10791m264,",
  "10792m262,10793m260,10794m29b,10795m127,10796m29c,10797m267,10798m284,10799s-104ef,1079bm26c,",
  "1079cm1df04,1079dma78e,1079em26e,1079fm1df05,107a0m28e,107a1m1df06,107a2mf8,107a3s-1052d,",
  "107a5m71,107a6m27a,107a7m1df08,107a8s-1052b,107aam280,107abm2a8,107acm2a6,107admab67,107aem2a7,",
  "107afm288,107b0m2c71,107b1x,107b2m28f,107b3s-10512,107b5m298,107b6s-105f6,107b9m1df0a,",
  "107bam1df1e,107bbx,10800v,10806x,10808v,10809x,1080av,10836x,10837v,10839x,1083cv,1083dx,1083fv,",
  "10856x,10857v,1089fx,108a7v,108b0x,108e0v,108f3x,108f4v,108f6x,108fbv,1091cx,1091fv,1093ax,",
  "1093fv,1095ax,10980v,109b8x,109bcv,109d0x,109d2v,10a04x,10a05v,10a07x,10a0cv,10a14x,10a15v,",
  "10a18x,10a19v,10a36x,10a38v,10a3bx,10a3fv,10a49x,10a50v,10a59x,10a60v,10aa0x,10ac0v,10ae7x,",
  "10aebv,10af7x,10b00v,10b36x,10b39v,10b56x,10b58v,10b73x,10b78v,10b92x,10b99v,10b9dx,10ba9v,",
  "10bb0x,10c00v,10c49x,10c80s+40,10cb3x,10cc0v,10cf3x,10cfav,10d28x,10d30v,10d3ax,10d40v,",
  "10d50s+20,10d66x,10d69v,10d86x,10d8ev,10d90x,10e60v,10e7fx,10e80v,10eaax,10eabv,10eaex,10eb0v,",
  "10eb2x,10ec2v,10ec8x,10ed0v,10ed9x,10efav,10f28x,10f30v,10f5ax,10f70v,10f8ax,10fb0v,10fccx,",
  "10fe0v,10ff7x,11000v,1104ex,11052v,11076x,1107fv,110bdx,110bev,110c3x,110d0v,110e9x,110f0v,",
  "110fax,11100v,11135x,11136v,11148x,11150v,11177x,11180v,111e0x,111e1v,111f5x,11200v,11212x,",
  "11213v,11242x,11280v,11287x,11288v,11289x,1128av,1128ex,1128fv,1129ex,1129fv,112aax,112b0v,",
  "112ebx,112f0v,112fax,11300v,11304x,11305v,1130dx,1130fv,11311x,11313v,11329x,1132av,11331x,",
  "11332v,11334x,11335v,1133ax,1133bv,11345x,11347v,11349x,1134bv,1134ex,11350v,11351x,11357v,",
  "11358x,1135dv,11364x,11366v,1136dx,11370v,11375x,11380v,1138ax,1138bv,1138cx,1138ev,1138fx,",
  "11390v,113b6x,113b7v,113c1x,113c2v,113c3x,113c5v,113c6x,113c7v,113cbx,113ccv,113d6x,113d7v,",
  "113d9x,113e1v,113e3x,11400v,1145cx,1145dv,11462x,11480v,114c8x,114d0v,114dax,11580v,115b6x,",
  "115b8v,115dex,11600v,11645x,11650v,1165ax,11660v,1166dx,11680v,116bax,116c0v,116cax,116d0v,",
  "116e4x,11700v,1171bx,1171dv,1172cx,11730v,11747x,11800v,1183cx,118a0s+20,118c0v,118f3x,118ffv,",
  "11907x,11909v,1190ax,1190cv,11914x,11915v,11917x,11918v,11936x,11937v,11939x,1193bv,11947x,",
  "11950v,1195ax,119a0v,119a8x,119aav,119d8x,119dav,119e5x,11a00v,11a48x,11a50v,11aa3x,11ab0v,",
  "11af9x,11b00v,11b0ax,11b60v,11b68x,11bc0v,11be2x,11bf0v,11bfax,11c00v,11c09x,11c0av,11c37x,",
  "11c38v,11c46x,11c50v,11c6dx,11c70v,11c90x,11c92v,11ca8x,11ca9v,11cb7x,11d00v,11d07x,11d08v,",
  "11d0ax,11d0bv,11d37x,11d3av,11d3bx,11d3cv,11d3ex,11d3fv,11d48x,11d50v,11d5ax,11d60v,11d66x,",
  "11d67v,11d69x,11d6av,11d8fx,11d90v,11d92x,11d93v,11d99x,11da0v,11daax,11db0v,11ddcx,11de0v,",
  "11deax,11ee0v,11ef9x,11f00v,11f11x,11f12v,11f3bx,11f3ev,11f5bx,11fb0v,11fb1x,11fc0v,11ff2x,",
  "11fffv,1239ax,12400v,1246fx,12470v,12475x,12480v,12544x,12f90v,12ff3x,13000v,13430x,13440v,",
  "13456x,13460v,143fbx,14400v,14647x,16100v,1613ax,16800v,16a39x,16a40v,16a5fx,16a60v,16a6ax,",
  "16a6ev,16abfx,16ac0v,16acax,16ad0v,16aeex,16af0v,16af6x,16b00v,16b46x,16b50v,16b5ax,16b5bv,",
  "16b62x,16b63v,16b78x,16b7dv,16b90x,16d40v,16d7ax,16e40s+20,16e60v,16e9bx,16ea0s+1b,16eb9x,",
  "16ebbv,16ed4x,16f00v,16f4bx,16f4fv,16f88x,16f8fv,16fa0x,16fe0v,16fe5x,16ff0v,16ff7x,17000v,",
  "18cd6x,18cffv,18d1fx,18d80v,18df3x,1aff0v,1aff4x,1aff5v,1affcx,1affdv,1afffx,1b000v,1b123x,",
  "1b132v,1b133x,1b150v,1b153x,1b155v,1b156x,1b164v,1b168x,1b170v,1b2fcx,1bc00v,1bc6bx,1bc70v,",
  "1bc7dx,1bc80v,1bc89x,1bc90v,1bc9ax,1bc9cv,1bca0i,1bca4x,1cc00v,1ccd6s-1cc75,1ccf0s-1ccc0,1ccfav,",
  "1ccfdx,1cd00v,1ceb4x,1cebav,1ced1x,1cee0v,1cef1x,1cf00v,1cf2ex,1cf30v,1cf47x,1cf50v,1cfc4x,",
  "1d000v,1d0f6x,1d100v,1d127x,1d129v,1d15em1d157.1d165,1d15fm1d158.1d165,1d160m1d158.1d165.1d16e,",
  "1d161m1d158.1d165.1d16f,1d162m1d158.1d165.1d170,1d163m1d158.1d165.1d171,1d164m1d158.1d165.1d172,",
  "1d165v,1d173i,1d17bv,1d1bbm1d1b9.1d165,1d1bcm1d1ba.1d165,1d1bdm1d1b9.1d165.1d16e,",
  "1d1bem1d1ba.1d165.1d16e,1d1bfm1d1b9.1d165.1d16f,1d1c0m1d1ba.1d165.1d16f,1d1c1v,1d1ebx,1d200v,",
  "1d246x,1d2c0v,1d2d4x,1d2e0v,1d2f4x,1d300v,1d357x,1d360v,1d379x,1d400s-1d39f,1d41as-1d3b9,",
  "1d434s-1d3d3,1d44es-1d3ed,1d455x,1d456s-1d3ed,1d468s-1d407,1d482s-1d421,1d49cm61,1d49dx,",
  "1d49es-1d43b,1d4a0x,1d4a2m67,1d4a3x,1d4a5s-1d43b,1d4a7x,1d4a9s-1d43b,1d4adx,1d4aes-1d43b,",
  "1d4b6s-1d455,1d4bax,1d4bbm66,1d4bcx,1d4bds-1d455,1d4c4x,1d4c5s-1d455,1d4d0s-1d46f,1d4eas-1d489,",
  "1d504s-1d4a3,1d506x,1d507s-1d4a3,1d50bx,1d50ds-1d4a3,1d515x,1d516s-1d4a3,1d51dx,1d51es-1d4bd,",
  "1d538s-1d4d7,1d53ax,1d53bs-1d4d7,1d53fx,1d540s-1d4d7,1d545x,1d546m6f,1d547x,1d54as-1d4d7,1d551x,",
  "1d552s-1d4f1,1d56cs-1d50b,1d586s-1d525,1d5a0s-1d53f,1d5bas-1d559,1d5d4s-1d573,1d5ees-1d58d,",
  "1d608s-1d5a7,1d622s-1d5c1,1d63cs-1d5db,1d656s-1d5f5,1d670s-1d60f,1d68as-1d629,1d6a4m131,",
  "1d6a5m237,1d6a6x,1d6a8s-1d2f7,1d6b9m3b8,1d6bas-1d2f7,1d6c1m2207,1d6c2s-1d311,1d6d3m3c3,",
  "1d6d5s-1d311,1d6dbm2202,1d6dcm3b5,1d6ddm3b8,1d6dem3ba,1d6dfm3c6,1d6e0m3c1,1d6e1m3c0,",
  "1d6e2s-1d331,1d6f3m3b8,1d6f4s-1d331,1d6fbm2207,1d6fcs-1d34b,1d70dm3c3,1d70fs-1d34b,1d715m2202,",
  "1d716m3b5,1d717m3b8,1d718m3ba,1d719m3c6,1d71am3c1,1d71bm3c0,1d71cs-1d36b,1d72dm3b8,1d72es-1d36b,",
  "1d735m2207,1d736s-1d385,1d747m3c3,1d749s-1d385,1d74fm2202,1d750m3b5,1d751m3b8,1d752m3ba,",
  "1d753m3c6,1d754m3c1,1d755m3c0,1d756s-1d3a5,1d767m3b8,1d768s-1d3a5,1d76fm2207,1d770s-1d3bf,",
  "1d781m3c3,1d783s-1d3bf,1d789m2202,1d78am3b5,1d78bm3b8,1d78cm3ba,1d78dm3c6,1d78em3c1,1d78fm3c0,",
  "1d790s-1d3df,1d7a1m3b8,1d7a2s-1d3df,1d7a9m2207,1d7aas-1d3f9,1d7bbm3c3,1d7bds-1d3f9,1d7c3m2202,",
  "1d7c4m3b5,1d7c5m3b8,1d7c6m3ba,1d7c7m3c6,1d7c8m3c1,1d7c9m3c0,1d7cam3dd,1d7ccx,1d7ces-1d79e,",
  "1d7d8s-1d7a8,1d7e2s-1d7b2,1d7ecs-1d7bc,1d7f6s-1d7c6,1d800v,1da8cx,1da9bv,1daa0x,1daa1v,1dab0x,",
  "1df00v,1df1fx,1df25v,1df2bx,1e000v,1e007x,1e008v,1e019x,1e01bv,1e022x,1e023v,1e025x,1e026v,",
  "1e02bx,1e030s-1dc00,1e039s-1dbff,1e03cs-1dbfe,1e047m44b,1e048s-1dbfb,1e04ama689,1e04bm4d9,",
  "1e04cm456,1e04dm458,1e04em4e9,1e04fm4af,1e050m4cf,1e051s-1dc21,1e05as-1dc20,1e05cs-1dc1e,",
  "1e05em441,1e05fs-1dc1c,1e065s-1dc1b,1e067m491,1e068m456,1e069m455,1e06am45f,1e06bm4ab,",
  "1e06cma651,1e06dm4b1,1e06ex,1e08fv,1e090x,1e100v,1e12dx,1e130v,1e13ex,1e140v,1e14ax,1e14ev,",
  "1e150x,1e290v,1e2afx,1e2c0v,1e2fax,1e2ffv,1e300x,1e4d0v,1e4fax,1e5d0v,1e5fbx,1e5ffv,1e600x,",
  "1e6c0v,1e6dfx,1e6e0v,1e6f6x,1e6fev,1e700x,1e7e0v,1e7e7x,1e7e8v,1e7ecx,1e7edv,1e7efx,1e7f0v,",
  "1e7ffx,1e800v,1e8c5x,1e8c7v,1e8d7x,1e900s+22,1e922v,1e94cx,1e950v,1e95ax,1e95ev,1e960x,1ec71v,",
  "1ecb5x,1ed01v,1ed3ex,1ee00s-1e7d9,1ee02m62c,1ee03m62f,1ee04x,1ee05m648,1ee06m632,1ee07m62d,",
  "1ee08m637,1ee09m64a,1ee0as-1e7c7,1ee0em633,1ee0fm639,1ee10m641,1ee11m635,1ee12m642,1ee13m631,",
  "1ee14m634,1ee15s-1e7eb,1ee17m62e,1ee18m630,1ee19m636,1ee1am638,1ee1bm63a,1ee1cm66e,1ee1dm6ba,",
  "1ee1em6a1,1ee1fm66f,1ee20x,1ee21m628,1ee22m62c,1ee23x,1ee24m647,1ee25x,1ee27m62d,1ee28x,",
  "1ee29m64a,1ee2as-1e7e7,1ee2em633,1ee2fm639,1ee30m641,1ee31m635,1ee32m642,1ee33x,1ee34m634,",
  "1ee35s-1e80b,1ee37m62e,1ee38x,1ee39m636,1ee3ax,1ee3bm63a,1ee3cx,1ee42m62c,1ee43x,1ee47m62d,",
  "1ee48x,1ee49m64a,1ee4ax,1ee4bm644,1ee4cx,1ee4dm646,1ee4em633,1ee4fm639,1ee50x,1ee51m635,",
  "1ee52m642,1ee53x,1ee54m634,1ee55x,1ee57m62e,1ee58x,1ee59m636,1ee5ax,1ee5bm63a,1ee5cx,1ee5dm6ba,",
  "1ee5ex,1ee5fm66f,1ee60x,1ee61m628,1ee62m62c,1ee63x,1ee64m647,1ee65x,1ee67m62d,1ee68m637,",
  "1ee69m64a,1ee6am643,1ee6bx,1ee6cs-1e827,1ee6em633,1ee6fm639,1ee70m641,1ee71m635,1ee72m642,",
  "1ee73x,1ee74m634,1ee75s-1e84b,1ee77m62e,1ee78x,1ee79m636,1ee7am638,1ee7bm63a,1ee7cm66e,1ee7dx,",
  "1ee7em6a1,1ee7fx,1ee80s-1e859,1ee82m62c,1ee83m62f,1ee84s-1e83d,1ee86m632,1ee87m62d,1ee88m637,",
  "1ee89m64a,1ee8ax,1ee8bs-1e847,1ee8em633,1ee8fm639,1ee90m641,1ee91m635,1ee92m642,1ee93m631,",
  "1ee94m634,1ee95s-1e86b,1ee97m62e,1ee98m630,1ee99m636,1ee9am638,1ee9bm63a,1ee9cx,1eea1m628,",
  "1eea2m62c,1eea3m62f,1eea4x,1eea5m648,1eea6m632,1eea7m62d,1eea8m637,1eea9m64a,1eeaax,",
  "1eeabs-1e867,1eeaem633,1eeafm639,1eeb0m641,1eeb1m635,1eeb2m642,1eeb3m631,1eeb4m634,1eeb5s-1e88b,",
  "1eeb7m62e,1eeb8m630,1eeb9m636,1eebam638,1eebbm63a,1eebcx,1eef0v,1eef2x,1f000v,1f02cx,1f030v,",
  "1f094x,1f0a0v,1f0afx,1f0b1v,1f0c0x,1f0c1v,1f0d0x,1f0d1v,1f0f6x,1f101m30.2c,1f102m31.2c,",
  "1f103m32.2c,1f104m33.2c,1f105m34.2c,1f106m35.2c,1f107m36.2c,1f108m37.2c,1f109m38.2c,1f10am39.2c,",
  "1f10bv,1f110m28.61.29,1f111m28.62.29,1f112m28.63.29,1f113m28.64.29,1f114m28.65.29,",
  "1f115m28.66.29,1f116m28.67.29,1f117m28.68.29,1f118m28.69.29,1f119m28.6a.29,1f11am28.6b.29,",
  "1f11bm28.6c.29,1f11cm28.6d.29,1f11dm28.6e.29,1f11em28.6f.29,1f11fm28.70.29,1f120m28.71.29,",
  "1f121m28.72.29,1f122m28.73.29,1f123m28.74.29,1f124m28.75.29,1f125m28.76.29,1f126m28.77.29,",
  "1f127m28.78.29,1f128m28.79.29,1f129m28.7a.29,1f12am3014.73.3015,1f12bm63,1f12cm72,1f12dm63.64,",
  "1f12em77.7a,1f12fv,1f130s-1f0cf,1f14am68.76,1f14bm6d.76,1f14cm73.64,1f14dm73.73,1f14em70.70.76,",
  "1f14fm77.63,1f150v,1f16am6d.63,1f16bm6d.64,1f16cm6d.72,1f16dv,1f190m64.6a,1f191v,1f1aex,1f1e6v,",
  "1f200m307b.304b,1f201m30b3.30b3,1f202m30b5,1f203x,1f210m624b,1f211m5b57,1f212m53cc,1f213m30c7,",
  "1f214m4e8c,1f215m591a,1f216m89e3,1f217m5929,1f218m4ea4,1f219m6620,1f21am7121,1f21bm6599,",
  "1f21cm524d,1f21dm5f8c,1f21em518d,1f21fm65b0,1f220m521d,1f221m7d42,1f222m751f,1f223m8ca9,",
  "1f224m58f0,1f225m5439,1f226m6f14,1f227m6295,1f228m6355,1f229m4e00,1f22am4e09,1f22bm904a,",
  "1f22cm5de6,1f22dm4e2d,1f22em53f3,1f22fm6307,1f230m8d70,1f231m6253,1f232m7981,1f233m7a7a,",
  "1f234m5408,1f235m6e80,1f236m6709,1f237m6708,1f238m7533,1f239m5272,1f23am55b6,1f23bm914d,1f23cx,",
  "1f240m3014.672c.3015,1f241m3014.4e09.3015,1f242m3014.4e8c.3015,1f243m3014.5b89.3015,",
  "1f244m3014.70b9.3015,1f245m3014.6253.3015,1f246m3014.76d7.3015,1f247m3014.52dd.3015,",
  "1f248m3014.6557.3015,1f249x,1f250m5f97,1f251m53ef,1f252x,1f260v,1f266x,1f300v,1f6d9x,1f6dcv,",
  "1f6edx,1f6f0v,1f6fdx,1f700v,1f7dax,1f7e0v,1f7ecx,1f7f0v,1f7f1x,1f800v,1f80cx,1f810v,1f848x,",
  "1f850v,1f85ax,1f860v,1f888x,1f890v,1f8aex,1f8b0v,1f8bcx,1f8c0v,1f8c2x,1f8d0v,1f8d9x,1f900v,",
  "1fa58x,1fa60v,1fa6ex,1fa70v,1fa7dx,1fa80v,1fa8bx,1fa8ev,1fac7x,1fac8v,1fac9x,1facdv,1faddx,",
  "1fadfv,1faebx,1faefv,1faf9x,1fb00v,1fb93x,1fb94v,1fbf0s-1fbc0,1fbfav,1fbfbx,20000v,2a6e0x,",
  "2a700v,2b81ex,2b820v,2ceaex,2ceb0v,2ebe1x,2ebf0v,2ee5ex,2f800m4e3d,2f801m4e38,2f802m4e41,",
  "2f803m20122,2f804m4f60,2f805m4fae,2f806m4fbb,2f807m5002,2f808m507a,2f809m5099,2f80am50e7,",
  "2f80bm50cf,2f80cm349e,2f80dm2063a,2f80em514d,2f80fm5154,2f810m5164,2f811m5177,2f812m2051c,",
  "2f813m34b9,2f814m5167,2f815m518d,2f816m2054b,2f817m5197,2f818m51a4,2f819m4ecc,2f81am51ac,",
  "2f81bm51b5,2f81cm291df,2f81dm51f5,2f81em5203,2f81fm34df,2f820m523b,2f821m5246,2f822m5272,",
  "2f823m5277,2f824m3515,2f825m52c7,2f826m52c9,2f827m52e4,2f828m52fa,2f829s-2a524,2f82bm5317,",
  "2f82cm5349,2f82dm5351,2f82em535a,2f82fm5373,2f830m537d,2f831m537f,2f834m20a2c,2f835m7070,",
  "2f836m53ca,2f837m53df,2f838m20b63,2f839m53eb,2f83am53f1,2f83bm5406,2f83cm549e,2f83dm5438,",
  "2f83em5448,2f83fm5468,2f840m54a2,2f841m54f6,2f842m5510,2f843m5553,2f844m5563,2f845m5584,",
  "2f847m5599,2f848m55ab,2f849m55b3,2f84am55c2,2f84bm5716,2f84cm5606,2f84dm5717,2f84em5651,",
  "2f84fm5674,2f850m5207,2f851m58ee,2f852m57ce,2f853m57f4,2f854m580d,2f855m578b,2f856m5832,",
  "2f857m5831,2f858m58ac,2f859m214e4,2f85am58f2,2f85bm58f7,2f85cm5906,2f85dm591a,2f85em5922,",
  "2f85fm5962,2f860m216a8,2f861m216ea,2f862m59ec,2f863m5a1b,2f864m5a27,2f865m59d8,2f866m5a66,",
  "2f867m36ee,2f868m36fc,2f869m5b08,2f86am5b3e,2f86cm219c8,2f86dm5bc3,2f86em5bd8,2f86fm5be7,",
  "2f870m5bf3,2f871m21b18,2f872m5bff,2f873m5c06,2f874m5f53,2f875m5c22,2f876m3781,2f877m5c60,",
  "2f878m5c6e,2f879m5cc0,2f87am5c8d,2f87bm21de4,2f87cm5d43,2f87dm21de6,2f87em5d6e,2f87fm5d6b,",
  "2f880m5d7c,2f881s-29aa0,2f883m382f,2f884m5dfd,2f885m5e28,2f886m5e3d,2f887m5e69,2f888m3862,",
  "2f889m22183,2f88am387c,2f88bm5eb0,2f88cm5eb3,2f88dm5eb6,2f88em5eca,2f88fm2a392,2f890m5efe,",
  "2f891m22331,2f893m8201,2f894m5f22,2f896m38c7,2f897m232b8,2f898m261da,2f899m5f62,2f89am5f6b,",
  "2f89bm38e3,2f89cm5f9a,2f89dm5fcd,2f89em5fd7,2f89fm5ff9,2f8a0m6081,2f8a1m393a,2f8a2m391c,",
  "2f8a3m6094,2f8a4m226d4,2f8a5m60c7,2f8a6m6148,2f8a7m614c,2f8a8m614e,2f8a9m614c,2f8aam617a,",
  "2f8abm618e,2f8acm61b2,2f8adm61a4,2f8aem61af,2f8afm61de,2f8b0m61f2,2f8b1m61f6,2f8b2m6210,",
  "2f8b3m621b,2f8b4m625d,2f8b5m62b1,2f8b6m62d4,2f8b7m6350,2f8b8m22b0c,2f8b9m633d,2f8bam62fc,",
  "2f8bbm6368,2f8bcm6383,2f8bdm63e4,2f8bem22bf1,2f8bfm6422,2f8c0m63c5,2f8c1m63a9,2f8c2m3a2e,",
  "2f8c3m6469,2f8c4m647e,2f8c5m649d,2f8c6m6477,2f8c7m3a6c,2f8c8m654f,2f8c9m656c,2f8cam2300a,",
  "2f8cbm65e3,2f8ccm66f8,2f8cdm6649,2f8cem3b19,2f8cfm6691,2f8d0m3b08,2f8d1m3ae4,2f8d2m5192,",
  "2f8d3m5195,2f8d4m6700,2f8d5m669c,2f8d6m80ad,2f8d7m43d9,2f8d8m6717,2f8d9m671b,2f8dam6721,",
  "2f8dbm675e,2f8dcm6753,2f8ddm233c3,2f8dem3b49,2f8dfm67fa,2f8e0m6785,2f8e1m6852,2f8e2m6885,",
  "2f8e3m2346d,2f8e4m688e,2f8e5m681f,2f8e6m6914,2f8e7m3b9d,2f8e8m6942,2f8e9m69a3,2f8eam69ea,",
  "2f8ebm6aa8,2f8ecm236a3,2f8edm6adb,2f8eem3c18,2f8efm6b21,2f8f0m238a7,2f8f1m6b54,2f8f2m3c4e,",
  "2f8f3m6b72,2f8f4m6b9f,2f8f5s-28d3b,2f8f7m23a8d,2f8f8m21d0b,2f8f9m23afa,2f8fam6c4e,2f8fbm23cbc,",
  "2f8fcm6cbf,2f8fdm6ccd,2f8fem6c67,2f8ffm6d16,2f900m6d3e,2f901m6d77,2f902m6d41,2f903m6d69,",
  "2f904m6d78,2f905m6d85,2f906m23d1e,2f907m6d34,2f908m6e2f,2f909m6e6e,2f90am3d33,2f90bm6ecb,",
  "2f90cm6ec7,2f90dm23ed1,2f90em6df9,2f90fm6f6e,2f910m23f5e,2f911m23f8e,2f912m6fc6,2f913m7039,",
  "2f914m701e,2f915m701b,2f916m3d96,2f917m704a,2f918m707d,2f919m7077,2f91am70ad,2f91bm20525,",
  "2f91cm7145,2f91dm24263,2f91em719c,2f91fm243ab,2f920m7228,2f921m7235,2f922m7250,2f923m24608,",
  "2f924m7280,2f925m7295,2f926m24735,2f927m24814,2f928m737a,2f929m738b,2f92am3eac,2f92bm73a5,",
  "2f92cm3eb8,2f92em7447,2f92fm745c,2f930m7471,2f931m7485,2f932m74ca,2f933m3f1b,2f934m7524,",
  "2f935m24c36,2f936m753e,2f937m24c92,2f938m7570,2f939m2219f,2f93am7610,2f93bm24fa1,2f93cm24fb8,",
  "2f93dm25044,2f93em3ffc,2f93fm4008,2f940m76f4,2f941m250f3,2f942m250f2,2f943m25119,2f944m25133,",
  "2f945m771e,2f946m771f,2f948m774a,2f949m4039,2f94am778b,2f94bm4046,2f94cm4096,2f94dm2541d,",
  "2f94em784e,2f94fm788c,2f950m78cc,2f951m40e3,2f952m25626,2f953m7956,2f954m2569a,2f955m256c5,",
  "2f956m798f,2f957m79eb,2f958m412f,2f959m7a40,2f95am7a4a,2f95bm7a4f,2f95cm2597c,2f95dm25aa7,",
  "2f95fm7aee,2f960m4202,2f961m25bab,2f962m7bc6,2f963m7bc9,2f964m4227,2f965m25c80,2f966m7cd2,",
  "2f967m42a0,2f968m7ce8,2f969m7ce3,2f96am7d00,2f96bm25f86,2f96cm7d63,2f96dm4301,2f96em7dc7,",
  "2f96fm7e02,2f970m7e45,2f971m4334,2f972m26228,2f973m26247,2f974m4359,2f975m262d9,2f976m7f7a,",
  "2f977m2633e,2f978m7f95,2f979m7ffa,2f97am8005,2f97bm264da,2f97cm26523,2f97dm8060,2f97em265a8,",
  "2f97fm8070,2f980m2335f,2f981m43d5,2f982m80b2,2f983m8103,2f984m440b,2f985m813e,2f986m5ab5,",
  "2f987m267a7,2f988m267b5,2f989m23393,2f98am2339c,2f98bm8201,2f98cm8204,2f98dm8f9e,2f98em446b,",
  "2f98fm8291,2f990m828b,2f991m829d,2f992m52b3,2f993m82b1,2f994m82b3,2f995m82bd,2f996m82e6,",
  "2f997m26b3c,2f998m82e5,2f999m831d,2f99am8363,2f99bm83ad,2f99cm8323,2f99dm83bd,2f99em83e7,",
  "2f99fm8457,2f9a0m8353,2f9a1m83ca,2f9a2m83cc,2f9a3m83dc,2f9a4m26c36,2f9a5m26d6b,2f9a6m26cd5,",
  "2f9a7m452b,2f9a8m84f1,2f9a9m84f3,2f9aam8516,2f9abm273ca,2f9acm8564,2f9adm26f2c,2f9aem455d,",
  "2f9afm4561,2f9b0m26fb1,2f9b1m270d2,2f9b2m456b,2f9b3m8650,2f9b4m865c,2f9b5m8667,2f9b6m8669,",
  "2f9b7m86a9,2f9b8m8688,2f9b9m870e,2f9bam86e2,2f9bbm8779,2f9bcm8728,2f9bdm876b,2f9bem8786,",
  "2f9bfm45d7,2f9c0m87e1,2f9c1m8801,2f9c2m45f9,2f9c3m8860,2f9c4m8863,2f9c5m27667,2f9c6m88d7,",
  "2f9c7m88de,2f9c8m4635,2f9c9m88fa,2f9cam34bb,2f9cbm278ae,2f9ccm27966,2f9cdm46be,2f9cem46c7,",
  "2f9cfm8aa0,2f9d0m8aed,2f9d1m8b8a,2f9d2m8c55,2f9d3m27ca8,2f9d4m8cab,2f9d5m8cc1,2f9d6m8d1b,",
  "2f9d7m8d77,2f9d8m27f2f,2f9d9m20804,2f9dam8dcb,2f9dbm8dbc,2f9dcm8df0,2f9ddm208de,2f9dem8ed4,",
  "2f9dfm8f38,2f9e0m285d2,2f9e1m285ed,2f9e2m9094,2f9e3m90f1,2f9e4m9111,2f9e5m2872e,2f9e6m911b,",
  "2f9e7m9238,2f9e8s-26711,2f9eam927c,2f9ebm93f9,2f9ecm9415,2f9edm28bfa,2f9eem958b,2f9efm4995,",
  "2f9f0m95b7,2f9f1m28d77,2f9f2m49e6,2f9f3m96c3,2f9f4m5db2,2f9f5m9723,2f9f6m29145,2f9f7m2921a,",
  "2f9f8m4a6e,2f9f9m4a76,2f9fam97e0,2f9fbm2940a,2f9fcm4ab2,2f9fdm29496,2f9fem980b,2fa00m9829,",
  "2fa01m295b6,2fa02m98e2,2fa03m4b33,2fa04m9929,2fa05m99a7,2fa06m99c2,2fa07m99fe,2fa08m4bce,",
  "2fa09m29b30,2fa0am9b12,2fa0bm9c40,2fa0cm9cfd,2fa0dm4cce,2fa0em4ced,2fa0fm9d67,2fa10m2a0ce,",
  "2fa11m4cf8,2fa12m2a105,2fa13m2a20e,2fa14m2a291,2fa15m9ebb,2fa16m4d56,2fa17m9ef9,2fa18m9efe,",
  "2fa19m9f05,2fa1am9f0f,2fa1bm9f16,2fa1cm9f3b,2fa1dm2a600,2fa1ex,30000v,3134bx,31350v,3347ax,",
  "e0100i,e01f0x,"]

/-- The mapping table. -/
def domainMapTable : RangeTable MapRule := RangeTable.ofStarts domainMapText MapRule.ofText

/-- What a domain name does with a character. -/
def treatment (c : Char) : Treatment :=
  match domainMapTable.find? c.toNat with
  | some (.treat t) => t
  | some (.shift d) => .mapped [Char.ofNat (c.toNat + d).toNat]
  | none => .disallowed

end TaskConsole.Text
